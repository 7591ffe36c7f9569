import Stencil.Yaml.Scalar

namespace Stencil

namespace Yaml

/-- What a document is made of before its plain scalars are given a meaning. -/
inductive Node where
  | plain (t : Text)
  | quoted (t : Text)
  | list (items : List Node)
  | mapping (entries : List (Node × Node))

namespace Node

instance : Inhabited Node := ⟨plain []⟩

/-- An empty plain scalar. -/
def null : Node := plain []

/-- The scalar that a key stands for. -/
def key? : Node → Option Scalar
  | plain t => if Text.of "=" = t then some (.text t) else plain? t
  | quoted t => some (.text t)
  | _ => none

mutual

/-- The data that a node stands for. -/
def data? : Node → Option Data
  | plain t => (plain? t).map .scalar
  | quoted t => some (.text t)
  | list items => (itemData? items).map .list
  | mapping entries => (entryData? entries).map Data.ofEntries

def itemData? : List Node → Option (List Data)
  | [] => some []
  | n :: ns => do
    let d ← n.data?
    let ds ← itemData? ns
    return d :: ds

def entryData? : List (Node × Node) → Option (List (Scalar × Data))
  | [] => some []
  | (k, n) :: es => do
    let key ← k.key?
    let d ← n.data?
    let ds ← entryData? es
    return (key, d) :: ds

end

mutual

/-- The count of digits of the first whole number with too many of them. -/
def longCount? : Node → Option Nat
  | plain t => Yaml.longCount? t
  | quoted _ => none
  | list items => longItem? items
  | mapping entries => longEntry? entries

def longItem? : List Node → Option Nat
  | [] => none
  | n :: ns => n.longCount? <|> longItem? ns

def longEntry? : List (Node × Node) → Option Nat
  | [] => none
  | (k, n) :: es => k.longCount? <|> n.longCount? <|> longEntry? es

end

end Node

end Yaml

end Stencil
