import Stencil.Proofs.FileSystem.Writable
import Stencil.Proofs.Text.Charset
import Stencil.Render.ToFile
import Stencil.Sink.Buffer

namespace Stencil

/-- The bytes are what some texts are encoded to together. The preamble of the set goes before the
first of them. -/
def Charset.Encodes (c : Charset) (writes : List Text) (bytes : Bytes) : Prop :=
  ∃ body, c.encode? writes.flatten = some body ∧
    bytes = (if writes = [] then [] else c.preamble) ++ body

namespace FileStream

variable {s : FileStream} {c : Charset} {t : Text}

/-- What a character set puts before the next write: the preamble before the first one. -/
def lead (c : Charset) (s : FileStream) : Bytes := if s.pieces = [] then c.preamble else []

@[simp] theorem codec_add (s : FileStream) (t : Text) (bs : Bytes) :
    (s.add t bs).codec = s.codec := rfl

@[simp] theorem lead_add (c : Charset) (s : FileStream) (t : Text) (bs : Bytes) :
    lead c (s.add t bs) = [] := rfl

@[simp] theorem bytes_add (s : FileStream) (t : Text) (bs : Bytes) :
    (s.add t bs).bytes = s.bytes ++ bs := by
  simp [bytes, add]

/-- The code of a charset goes before each write with its lead, which only the first one has. -/
theorem encode?_codec (c : Charset) (s : FileStream) (t : Text) :
    c.codec.encode? (s.pieces.map Prod.fst) t = (c.encode? t).map (lead c s ++ ·) := by
  simp only [Charset.codec, List.map_eq_nil_iff, lead]

/-- A text that the charset covers is written as its code. -/
theorem write_of_covers (hcodec : s.codec = c.codec) (hcovers : c.covers t) :
    Sink.write s t = .ok (s.add t (lead c s ++ t.flatMap c.code)) := by
  simp only [Sink.write, hcodec, encode?_codec, Charset.encode?_eq, if_pos hcovers, Option.map_some]

/-- A text with a code point that the charset lacks is refused, and nothing of it is written. -/
theorem write_of_lack (hcodec : s.codec = c.codec) (hlack : c.covers t = false) :
    Sink.write s t = .error .unencodable := by
  simp only [Sink.write, hcodec, encode?_codec, Charset.encode?_eq, hlack, Bool.false_eq_true,
    if_false, Option.map_none]

end FileStream

namespace Counted

variable {c : Charset}

/-- Writes that the set covers are taken, one after another. -/
theorem writeAll_of_covers {s : Counted FileStream} {ts : List Text}
    (hcodec : s.stream.codec = c.codec) (hcovers : ∀ t ∈ ts, c.covers t) :
    ∃ s' : Counted FileStream, Sink.writeAll s ts = (s', none) ∧
      s'.stream.codec = c.codec ∧
      s'.stream.bytes = s.stream.bytes ++ (if ts = [] then [] else s.stream.lead c) ++
        ts.flatten.flatMap c.code := by
  induction ts generalizing s with
  | nil => exact ⟨s, rfl, hcodec, by simp⟩
  | cons t ts ih =>
    obtain ⟨ht, hts⟩ := List.forall_mem_cons.1 hcovers
    have hwrite := Counted.write_of_ok (c := s) (FileStream.write_of_covers hcodec ht)
    let next : Counted FileStream :=
      ⟨s.stream.add t (s.stream.lead c ++ t.flatMap c.code), s.written + t.length⟩
    obtain ⟨s', hrest, hcodec', hbytes⟩ := ih (s := next) hcodec hts
    refine ⟨s', ?_, hcodec', ?_⟩
    · rw [Sink.writeAll, hwrite]
      exact hrest
    · rw [hbytes]
      simp [next]

/-- The first write with a code point that the set lacks is the last one. -/
theorem writeAll_of_lack {s : Counted FileStream} {before : List Text} {w : Text}
    (hcodec : s.stream.codec = c.codec) (hcovers : ∀ t ∈ before, c.covers t)
    (hlack : c.covers w = false) (after : List Text) :
    Sink.writeAll s (before ++ w :: after) =
      ((Sink.writeAll s before).1, some .unencodable) := by
  obtain ⟨s', hbefore, hcodec', -⟩ := writeAll_of_covers hcodec hcovers
  have hwrite := Counted.write_of_error (c := s') (FileStream.write_of_lack hcodec' hlack)
  rw [Sink.writeAll_append, hbefore]
  simp only [Sink.writeAll, hwrite]
  rfl

end Counted

namespace Template

variable {t : Template} {convert : Conversion} {v : Value} {c : Charset}

/-- A render in memory that ends well makes all the writes of the render. -/
theorem render_of_renderTo_buffer {b : Buffer}
    (hmemory : t.renderTo convert v ({} : Buffer) = (b, none)) :
    t.renderWith convert v = ⟨b.parts.reverse, none⟩ ∧ b.text = b.parts.reverse.flatten := by
  have hempty : (Sink.announce ({} : Buffer) (t.capacity v)).parts = [] := by
    cases t.capacity v <;> rfl
  rw [renderTo, Run.deliver, Buffer.writeAll_eq, hempty] at hmemory
  obtain ⟨hbuffer, hfault⟩ := Prod.mk.inj hmemory
  generalize t.renderWith convert v = r at hbuffer hfault ⊢
  obtain ⟨writes, fault⟩ := r
  obtain rfl : fault = none := by simpa using hfault
  rw [← hbuffer]
  simp [Buffer.text]

/-- A file takes no note of sizes. -/
theorem renderAt_eq (codec : Codec) (place : List Text) (fs : FileSystem) :
    t.renderAt convert v codec place fs =
      let r := (t.renderWith convert v).deliver ({ stream := { codec } } : Counted FileStream)
      (fs.putAt place (.file r.1.stream.bytes), r.2.map .render) := by
  rw [renderAt, renderTo, Sink.announce_of_reserve fun _ _ => rfl]

/-- Where the charset covers all writes, the file holds the code of all of them. -/
theorem renderAt_of_covers {writes : List Text} (hrun : t.renderWith convert v = ⟨writes, none⟩)
    (hcovers : ∀ w ∈ writes, c.covers w) (place : List Text) (fs : FileSystem) :
    ∃ bytes, c.Encodes writes bytes ∧
      t.renderAt convert v c.codec place fs = (fs.putAt place (.file bytes), none) := by
  obtain ⟨s, hwrites, -, hbytes⟩ :=
    Counted.writeAll_of_covers (s := { stream := { codec := c.codec } }) rfl hcovers
  refine ⟨s.stream.bytes, ⟨writes.flatten.flatMap c.code, ?_, hbytes⟩, ?_⟩
  · rw [Charset.encode?_eq, Charset.covers_flatten, List.all_eq_true.2 hcovers, if_pos rfl]
  · rw [renderAt_eq, hrun]
    simp [Run.deliver, hwrites]

/-- Where it lacks a code point, the file holds the code of the writes before the first that has
one. -/
theorem renderAt_of_lack {before after : List Text} {w : Text}
    (hrun : t.renderWith convert v = ⟨before ++ w :: after, none⟩)
    (hcovers : ∀ u ∈ before, c.covers u) (hlack : c.covers w = false) (place : List Text)
    (fs : FileSystem) :
    ∃ bytes, c.Encodes before bytes ∧
      t.renderAt convert v c.codec place fs =
        (fs.putAt place (.file bytes), some (.render (.sink .unencodable))) := by
  obtain ⟨s, hwrites, -, hbytes⟩ :=
    Counted.writeAll_of_covers (s := { stream := { codec := c.codec } }) rfl hcovers
  have hlast := Counted.writeAll_of_lack (s := { stream := { codec := c.codec } }) rfl hcovers
    hlack after
  refine ⟨s.stream.bytes, ⟨before.flatten.flatMap c.code, ?_, hbytes⟩, ?_⟩
  · rw [Charset.encode?_eq, Charset.covers_flatten, List.all_eq_true.2 hcovers, if_pos rfl]
  · rw [renderAt_eq, hrun]
    simp [Run.deliver, hlast, hwrites]

variable {codecs : Codecs} {charset : Data} {name : Option Text} {fs : FileSystem} {p : Path}
  {grown : Entry} {place : List Text}

/-- At a path that can be written, the render gets to work on an empty file. -/
theorem renderToFile_eq_renderAt (t : Template) (convert : Conversion) (v : Value)
    (hname : Charset.nameOf charset = .ok name) (hcodec : codecs.find? name = some c.codec)
    (hwritable : fs.Writable p grown place) :
    t.renderToFile convert v codecs charset p fs =
      t.renderAt convert v c.codec place { fs with root := Entry.put (.file []) place grown } := by
  have hopen : FileSystem.openText { fs with root := grown } codecs charset p =
      ({ fs with root := Entry.put (.file []) place grown }, .ok (c.codec, place)) := by
    simp only [FileSystem.openText, hname, hwritable.openEmpty, hcodec]
  simp only [renderToFile, hwritable.ensureDirectories, hopen]

/-- A render that makes all its writes in memory leaves their encoding in a file, if the character
set has all their code points. Otherwise it fails, and leaves the encoding of the writes before the
first one with a code point that is lacking. What the file held before is gone either way, its
directories are there, and nothing else changes. -/
theorem renderToFile_holds_prefix {b : Buffer}
    (hmemory : t.renderTo convert v ({} : Buffer) = (b, none))
    (hname : Charset.nameOf charset = .ok name) (hcodec : codecs.find? name = some c.codec)
    (hwritable : fs.Writable p grown place) :
    let writes := b.parts.reverse
    ∃ fs' bytes, fs.Written p grown place bytes fs' ∧
      if c.covers b.text then
        t.renderToFile convert v codecs charset p fs = (fs', none) ∧ c.Encodes writes bytes
      else
        t.renderToFile convert v codecs charset p fs = (fs', some (.render (.sink .unencodable))) ∧
          ∃ before w after, writes = before ++ w :: after ∧ (∀ u ∈ before, c.covers u) ∧
            c.covers w = false ∧ c.Encodes before bytes := by
  intro writes
  obtain ⟨hrun, htext⟩ := render_of_renderTo_buffer hmemory
  have heq := renderToFile_eq_renderAt t convert v hname hcodec hwritable
  rw [htext, Charset.covers_flatten]
  -- The writes before the first one that is not covered, or else all of them, are in the file.
  cases hlack : writes.find? (fun w => !c.covers w) with
  | none =>
    have hcovers : ∀ w ∈ writes, c.covers w := by simpa using hlack
    obtain ⟨bytes, hencodes, hat⟩ := renderAt_of_covers hrun hcovers place _
    refine ⟨_, bytes, hwritable.written bytes, ?_⟩
    rw [if_pos (List.all_eq_true.2 hcovers)]
    exact ⟨heq.trans hat, hencodes⟩
  | some w =>
    obtain ⟨hw, before, after, hwrites, hbefore⟩ := List.find?_eq_some_iff_append.1 hlack
    have hcovers : ∀ u ∈ before, c.covers u := by simpa using hbefore
    have hw' : c.covers w = false := by simpa using hw
    have hnot : ¬ writes.all c.covers = true := by
      rw [hwrites, List.all_append, List.all_cons, hw']
      simp
    have hcut : t.renderWith convert v = ⟨before ++ w :: after, none⟩ :=
      hrun.trans (congrArg (fun ws => Run.mk ws none) hwrites)
    obtain ⟨bytes, hencodes, hat⟩ := renderAt_of_lack hcut hcovers hw' place _
    refine ⟨_, bytes, hwritable.written bytes, ?_⟩
    rw [if_neg hnot]
    exact ⟨heq.trans hat, before, w, after, hwrites, hcovers, hw', hencodes⟩

/-- Three writes in Latin-1, which lacks a sign of the second one, to a file in a directory that is
not there. -/
theorem renderToFile_holds_prefix_latin1 :
    let t : Template := ⟨[⟨Text.of "é", .print true ⟨FieldName.dot, 0⟩⟩, ⟨Text.of "!", .tail⟩]⟩
    let v : Value := .text (Text.of "<€")
    let b : Buffer := ⟨[Text.of "!", Text.of "&lt;€", Text.of "é"], 4⟩
    let fs : FileSystem := ⟨.directory [], []⟩
    let p : Path := Path.ofText (Text.of "out/a.html")
    t.renderTo .ok v ({} : Buffer) = (b, none) ∧
      Charset.nameOf (Data.text (Text.of "Latin-1")) = .ok (some (Text.of "Latin-1")) ∧
      Charset.codecs.find? (some (Text.of "Latin-1")) = some Charset.latin1.codec ∧
      fs.Writable p (.directory [(Text.of "out", .directory [])])
        [Text.of "out", Text.of "a.html"] ∧
      ∃ fs', t.renderToFile .ok v Charset.codecs (Data.text (Text.of "Latin-1")) p fs =
          (fs', some (.render (.sink .unencodable))) ∧
        fs'.read p = .ok [0xE9] ∧ fs'.root.kindAt [Text.of "out"] = some .directory := by
  intro t v b fs p
  have hmemory : t.renderTo .ok v ({} : Buffer) = (b, none) := by decide
  have hname : Charset.nameOf (Data.text (Text.of "Latin-1")) = .ok (some (Text.of "Latin-1")) := rfl
  have hnamed : Charset.named? (Text.of "Latin-1") = some .latin1 := by decide
  have hcodec : Charset.codecs.find? (some (Text.of "Latin-1")) = some Charset.latin1.codec :=
    congrArg (Option.map Charset.codec) hnamed
  have hwritable : fs.Writable p (.directory [(Text.of "out", .directory [])])
      [Text.of "out", Text.of "a.html"] := {
    usable := by decide
    moving := by decide
    started := rfl
    free := by decide
    made := ⟨[Text.of "out"], Text.of "a.html", [Text.of "out"], by decide, rfl, rfl, by decide,
      by decide⟩ }
  obtain ⟨fs', bytes, hwritten, hresult⟩ :=
    renderToFile_holds_prefix hmemory hname hcodec hwritable
  rw [if_neg (by decide)] at hresult
  obtain ⟨hfails, before, w, after, hwrites, hbefore, hw, hencodes⟩ := hresult
  have hcut : before = [Text.of "é"] := by
    match before, hwrites, hbefore with
    | [], hwrites, _ =>
      cases hwrites
      cases hw
    | [u], hwrites, _ =>
      cases hwrites
      rfl
    | u :: x :: rest, hwrites, hbefore =>
      injection hwrites with _ hwrites
      injection hwrites with hx _
      have hcovers := hbefore x (by simp)
      rw [← hx] at hcovers
      cases hcovers
  obtain ⟨body, hbody, rfl⟩ := hencodes
  rw [hcut] at hbody hwritten
  cases hbody
  refine ⟨hmemory, hname, hcodec, hwritable, fs', hfails, hwritten.read, ?_⟩
  rw [hwritten.kindAt, if_neg (by decide)]
  rfl

end Template

end Stencil
