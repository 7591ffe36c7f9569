import Stencil.Sink.Basic
import Stencil.Text.Charset

namespace Stencil

/-- A stream of text that refuses a write which would take it past its limit. -/
structure TextStream where
  /-- Nothing at all is taken if it is negative. -/
  limit : Option Int := none
  /-- What was written, latest first. -/
  parts : List Text := []
  /-- Code points held. -/
  size : Nat := 0
deriving DecidableEq

namespace TextStream

def text (s : TextStream) : Text := s.parts.reverse.flatten

instance : Sink TextStream where
  write s t :=
    if s.limit.any fun (n : Int) => n < ((s.size + t.length : Nat) : Int) then .error .noSpace
    else .ok { s with parts := t :: s.parts, size := s.size + t.length }

theorem write_of_limit {s : TextStream} {limit : Int} (hlimit : s.limit = some limit)
    (t : Text) :
    Sink.write s t =
      if limit < ((s.size + t.length : Nat) : Int) then .error .noSpace
      else .ok { s with parts := t :: s.parts, size := s.size + t.length } := by
  simp only [Sink.write, hlimit, Option.any_some, decide_eq_true_eq]

end TextStream

/-- A file opened for writing, in which each write is encoded as it comes. -/
structure FileStream where
  codec : Codec
  /-- What was written, with its bytes, latest first. -/
  pieces : List (Text × Bytes) := []

namespace FileStream

/-- The content of the file. -/
def bytes (s : FileStream) : Bytes := (s.pieces.map Prod.snd).reverse.flatten

/-- The stream with a piece of text behind what it holds. -/
def add (s : FileStream) (t : Text) (bs : Bytes) : FileStream :=
  { s with pieces := (t, bs) :: s.pieces }

instance : Sink FileStream where
  write s t :=
    match s.codec.encode? (s.pieces.map Prod.fst) t with
    | some bs => .ok (s.add t bs)
    | none => .error .unencodable

end FileStream

/-- A stream together with the number of code points it has taken. A refusal by the system is
reported as a failed output. -/
structure Counted (σ : Type) where
  stream : σ
  written : Nat := 0
deriving DecidableEq

namespace Counted

variable {σ : Type} [Sink σ]

/-- What a counted stream reports for a refusal below it. -/
def report (e : SinkError) : SinkError := if e.isSystem then .output e else e

instance : Sink (Counted σ) where
  write s t :=
    match Sink.write s.stream t with
    | .ok stream => .ok ⟨stream, s.written + t.length⟩
    | .error e => .error (report e)

theorem write_of_ok {c : Counted σ} {t : Text} {stream : σ}
    (hwrite : Sink.write c.stream t = .ok stream) :
    Sink.write c t = .ok (⟨stream, c.written + t.length⟩ : Counted σ) := by
  rw [Sink.write, instSink]
  simp only [hwrite]

theorem write_of_error {c : Counted σ} {t : Text} {e : SinkError}
    (hwrite : Sink.write c.stream t = .error e) : Sink.write c t = .error (report e) := by
  rw [Sink.write, instSink]
  simp only [hwrite]

end Counted

end Stencil
