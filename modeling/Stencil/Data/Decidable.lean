import Stencil.Data.Basic

namespace Stencil

namespace Data

mutual

def decEq : (d e : Data) → Decidable (d = e)
  | .scalar s, .scalar t =>
    if h : s = t then .isTrue (congrArg scalar h) else .isFalse fun he => h (scalar.inj he)
  | .list ds, .list es =>
    match decEqItems ds es with
    | .isTrue h => .isTrue (congrArg list h)
    | .isFalse h => .isFalse fun he => h (list.inj he)
  | .mapping ds, .mapping es =>
    match decEqEntries ds es with
    | .isTrue h => .isTrue (congrArg mapping h)
    | .isFalse h => .isFalse fun he => h (mapping.inj he)
  | .scalar _, .list _ => .isFalse nofun
  | .scalar _, .mapping _ => .isFalse nofun
  | .list _, .scalar _ => .isFalse nofun
  | .list _, .mapping _ => .isFalse nofun
  | .mapping _, .scalar _ => .isFalse nofun
  | .mapping _, .list _ => .isFalse nofun

def decEqItems : (ds es : List Data) → Decidable (ds = es)
  | [], [] => .isTrue rfl
  | [], _ :: _ => .isFalse nofun
  | _ :: _, [] => .isFalse nofun
  | d :: ds, e :: es =>
    match decEq d e, decEqItems ds es with
    | .isTrue h, .isTrue hs => .isTrue (congr (congrArg List.cons h) hs)
    | .isFalse h, _ => .isFalse fun he => h (List.cons.inj he).1
    | _, .isFalse hs => .isFalse fun he => hs (List.cons.inj he).2

def decEqEntries : (ds es : List (Scalar × Data)) → Decidable (ds = es)
  | [], [] => .isTrue rfl
  | [], _ :: _ => .isFalse nofun
  | _ :: _, [] => .isFalse nofun
  | (k, d) :: ds, (l, e) :: es =>
    if hk : k = l then
      match decEq d e, decEqEntries ds es with
      | .isTrue h, .isTrue hs =>
        .isTrue (congr (congrArg List.cons (congr (congrArg Prod.mk hk) h)) hs)
      | .isFalse h, _ => .isFalse fun he => h (Prod.mk.inj (List.cons.inj he).1).2
      | _, .isFalse hs => .isFalse fun he => hs (List.cons.inj he).2
    else .isFalse fun he => hk (Prod.mk.inj (List.cons.inj he).1).1

end

instance : DecidableEq Data := decEq

end Data

end Stencil
