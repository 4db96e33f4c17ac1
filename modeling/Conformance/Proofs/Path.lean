import Conformance.Error
import Conformance.Proofs.Text.Reading

/-!
# Conformance.Proofs.Path

A path can be read back from its text if the names in it keep clear of the
marks that begin a segment (`Segment.Unmarked`).

1. Behind other segments each is written with its mark, a dot or an opening
   bracket, and is read up to the mark of the next (`Segment.reads_further`).
2. A name at the front has no dot.  With that dot put back (`withDot`) the
   text of a path is that of its segments, each behind others, so that paths
   with one text are equal (`text_eq_iff`).  The root alone has an empty text.
-/

namespace Conformance

namespace Segment

/-- The marks that begin a segment behind others. -/
def marks : List Char := ['.', '[']

/-- An integer, or a name that is not empty and holds no mark. -/
def Unmarked : Segment → Prop
  | field name => name ≠ "" ∧ ∀ c ∈ name.toList, c ∉ marks
  | index _ => True
  | other _ => False

/-- The text of a segment behind others. -/
def further : Segment → String
  | field name => "." ++ name
  | index i => "[" ++ toString i ++ "]"
  | other (.bool b) => "[" ++ (Value.bool b).text ++ "]"
  | other v => "." ++ v.text

/-- The text of a further segment begins with a mark. -/
theorem stopsAt_further (s : Segment) (rest : List Char) :
    StopsAt marks (s.further.toList ++ rest) := by
  cases s with
  | field | index => simp [further, marks]
  | other v => cases v <;> simp [further, marks]

/-- No further segment is written as nothing. -/
theorem further_ne_empty (s : Segment) : s.further ≠ "" := by
  cases s with
  | field | index => simp [further]
  | other v => cases v <;> simp [further]

/-- A segment behind others is read up to the mark of the next. -/
theorem reads_further {s : Segment} (hs : s.Unmarked) : Reads Unmarked further marks s := by
  intro t rest rest' ht hrest hrest' h
  cases s with
  | other => cases hs
  | field name =>
    cases t with
    | other => cases ht
    | index => simp [further] at h
    | field name' =>
      have htexts : name.toList ++ rest = name'.toList ++ rest' := by simpa [further] using h
      obtain ⟨hname, hrests⟩ := append_inj_of_stopsAt (p := (· ∉ marks)) (by simp)
        (by simpa using hs.2) (by simpa using ht.2) hrest hrest' htexts
      exact ⟨congrArg field (String.toList_injective hname), hrests⟩
  | index i =>
    cases t with
    | other => cases ht
    | field => simp [further] at h
    | index j =>
      -- a numeral ends at the closing bracket, whatever names hold
      have htexts : (toString i).toList ++ ']' :: rest = (toString j).toList ++ ']' :: rest' := by
        simpa [further] using h
      obtain ⟨rfl, hrests⟩ := (reads_int i).before (by simp) trivial htexts
      exact ⟨rfl, hrests⟩

end Segment

namespace Path

open Segment (Unmarked marks further)

/-! ## Segments behind others -/

/-- The text of segments behind others. -/
def furtherChars (path : Path) : List Char := path.flatMap fun s => s.further.toList

theorem furtherChars_cons (s : Segment) (path : Path) :
    furtherChars (s :: path) = s.further.toList ++ furtherChars path := rfl

/-- Only the empty path adds nothing. -/
theorem furtherChars_eq_nil_iff {path : Path} : furtherChars path = [] ↔ path = [] := by
  cases path with
  | nil => simp [furtherChars]
  | cons s path => simp [furtherChars_cons, s.further_ne_empty]

/-- What follows a segment begins with a mark, if anything follows. -/
theorem stopsAt_furtherChars (path : Path) : StopsAt marks (furtherChars path) := by
  cases path with
  | nil => exact stopsAt_nil _
  | cons s path => exact s.stopsAt_further (furtherChars path)

/-- Behind a text that is not empty each segment has its mark. -/
theorem exists_renderOnto {before : String} (h : before ≠ "") (path : Path) :
    ∃ text, renderOnto before path = some text ∧
      text.toList = before.toList ++ furtherChars path := by
  induction path generalizing before with
  | nil => exact ⟨before, rfl, (List.append_nil _).symm⟩
  | cons s path ih =>
    have hstep : renderOnto before (s :: path) = renderOnto (before ++ s.further) path := by
      cases s with
      | field name => simp [renderOnto, further, h, String.append_assoc]
      | index i => simp [renderOnto, further, String.append_assoc]
      | other v => cases v <;> simp [renderOnto, further, h, String.append_assoc]
    have hbefore : before ++ s.further ≠ "" := by simp [h]
    obtain ⟨text, hrender, htext⟩ := ih hbefore
    refine ⟨text, hstep.trans hrender, ?_⟩
    rw [htext, String.toList_append, List.append_assoc, furtherChars_cons]

/-- Further segments without marks in their names are read back one by one. -/
theorem furtherChars_inj {path path' : Path} (h : ∀ s ∈ path, s.Unmarked)
    (h' : ∀ s ∈ path', s.Unmarked) (heq : furtherChars path = furtherChars path') :
    path = path' := by
  -- segments are taken off both fronts: what is left is empty or begins with a mark
  induction path generalizing path' with
  | nil => exact (furtherChars_eq_nil_iff.mp heq.symm).symm
  | cons s path ih =>
    cases path' with
    | nil => exact absurd (furtherChars_eq_nil_iff.mp heq) (List.cons_ne_nil s path)
    | cons t path' =>
      obtain ⟨hs, hpath⟩ := List.forall_mem_cons.mp h
      obtain ⟨ht, hpath'⟩ := List.forall_mem_cons.mp h'
      rw [furtherChars_cons, furtherChars_cons] at heq
      obtain ⟨rfl, hrests⟩ := Segment.reads_further hs t _ _ ht (stopsAt_furtherChars path)
        (stopsAt_furtherChars path') heq
      rw [ih hpath hpath' hrests]

/-! ## Whole paths -/

/-- A text with a dot before the name at its front, if there is one. -/
def withDot : List Char → List Char
  | [] => []
  | c :: text => if c = '[' then c :: text else '.' :: c :: text

/-- With the dot that is left out at the front, a path is written as it is
behind others. -/
theorem exists_render? {path : Path} (h : ∀ s ∈ path, s.Unmarked) :
    ∃ text, render? path = some text ∧ withDot text.toList = furtherChars path := by
  cases path with
  | nil => exact ⟨"", rfl, rfl⟩
  | cons s path =>
    obtain ⟨hs, -⟩ := List.forall_mem_cons.mp h
    cases s with
    | other => cases hs
    | index i =>
      have hfront : "" ++ "[" ++ toString i ++ "]" ≠ "" := by simp
      obtain ⟨text, hrender, htext⟩ := exists_renderOnto hfront path
      exact ⟨text, hrender, by simp [htext, withDot, furtherChars_cons, further]⟩
    | field name =>
      obtain ⟨hname, hmarks⟩ := hs
      obtain ⟨text, hrender, htext⟩ := exists_renderOnto hname path
      refine ⟨text, hrender, ?_⟩
      rw [htext, furtherChars_cons]
      -- the dot is put back, since the name begins with something other than a bracket
      rcases hchars : name.toList with _ | ⟨c, chars⟩
      · exact absurd (String.toList_injective hchars) hname
      · have hc : c ∉ marks := hmarks c (by simp [hchars])
        have hbracket : c ≠ '[' := fun heq => hc (by simp [heq, marks])
        simp [withDot, hbracket, further, hchars]

/-- A path without marks in its names can be written. -/
theorem render?_eq_text {path : Path} (h : ∀ s ∈ path, s.Unmarked) :
    path.render? = some path.text := by
  obtain ⟨text, hrender, -⟩ := exists_render? h
  rw [Path.text, hrender, Option.getD_some]

/-- Paths with one text are equal. -/
theorem text_eq_iff {path path' : Path} (h : ∀ s ∈ path, s.Unmarked)
    (h' : ∀ s ∈ path', s.Unmarked) : path.text = path'.text ↔ path = path' := by
  refine ⟨fun heq => ?_, congrArg text⟩
  obtain ⟨text, hrender, htext⟩ := exists_render? h
  obtain ⟨text', hrender', htext'⟩ := exists_render? h'
  obtain rfl : text = text' := by
    rwa [Path.text, Path.text, hrender, hrender', Option.getD_some, Option.getD_some] at heq
  exact furtherChars_inj h h' (htext.symm.trans htext')

/-- Only the path to the whole is written as nothing. -/
theorem text_eq_empty_iff {path : Path} (h : ∀ s ∈ path, s.Unmarked) :
    path.text = "" ↔ path = [] :=
  text_eq_iff h (List.forall_mem_nil _)

/-- A path without marks in its names is written as its text. -/
theorem render_eq_text {path : Path} (h : ∀ s ∈ path, s.Unmarked) :
    path.render = .ok path.text := by
  rw [render, render?_eq_text h]

/-- A path of integers and of names without marks has a text, which no other
such path has, and which is empty only at the root. -/
theorem render_identifies {path path' : Path} (h : ∀ s ∈ path, s.Unmarked)
    (h' : ∀ s ∈ path', s.Unmarked) :
    path.render = .ok path.text ∧ (path.render = path'.render ↔ path = path') ∧
      (path.render = .ok "" ↔ path = []) := by
  have hrender : path.render = .ok path.text := render_eq_text h
  refine ⟨hrender, ?_, ?_⟩
  · rw [hrender, render_eq_text h', Except.ok.injEq]
    exact text_eq_iff h h'
  · rw [hrender, Except.ok.injEq]
    exact text_eq_empty_iff h

/-- An index, and a field that is named like one but for the bracket that
opens it. -/
theorem render_identifies_numeral :
    (∀ s ∈ ([.index (-1), .field "id"] : Path), s.Unmarked) ∧
      (∀ s ∈ ([.field "-1]", .field "id"] : Path), s.Unmarked) ∧
      render [.index (-1), .field "id"] = .ok "[-1].id" ∧
      render [.field "-1]", .field "id"] = .ok "-1].id" ∧
      render [.index (-1), .field "id"] ≠ render [.field "-1]", .field "id"] ∧
      render [.index (-1), .field "id"] ≠ .ok "" := by
  have h : ∀ s ∈ ([.index (-1), .field "id"] : Path), s.Unmarked := by simp [Unmarked, marks]
  have h' : ∀ s ∈ ([.field "-1]", .field "id"] : Path), s.Unmarked := by simp [Unmarked, marks]
  obtain ⟨-, hsame, hroot⟩ := render_identifies h h'
  exact ⟨h, h', rfl, rfl, mt hsame.mp (by simp), mt hroot.mp (by simp)⟩

-- a dot inside a name reads like one between two names
example : render [.field "a.b"] = render [.field "a", .field "b"] := rfl

end Path

end Conformance
