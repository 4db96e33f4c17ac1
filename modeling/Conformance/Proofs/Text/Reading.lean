import Conformance.Descriptor.Render
import Mathlib

/-!
# Conformance.Proofs.Text.Reading

What is read off the front of a text.

`Reads` says that something is read in one way only, whatever comes behind the
mark at which it stops.  Numbers are read so (`reads_int`, `reads_nat`), and
so are lists with commas between what is read so, up to the mark that closes
them (`commaSeparated_inj`).
-/

namespace Conformance

/-! ## Marks -/

/-- A text is empty or begins with one of some marks. -/
def StopsAt (marks text : List Char) : Prop := ∀ c ∈ text.head?, c ∈ marks

@[simp] theorem stopsAt_nil (marks : List Char) : StopsAt marks [] := by
  simp [StopsAt]

@[simp] theorem stopsAt_cons {marks text : List Char} {c : Char} :
    StopsAt marks (c :: text) ↔ c ∈ marks := by
  simp [StopsAt]

/-- Where one of some marks stands, one of more marks stands. -/
theorem StopsAt.mono {marks marks' text : List Char} (hsub : marks ⊆ marks')
    (h : StopsAt marks text) : StopsAt marks' text :=
  fun c hc => hsub (h c hc)

/-- Characters of a class are told from a rest that begins with none of them. -/
theorem append_inj_of_stopsAt {p : Char → Bool} {marks front front' rest rest' : List Char}
    (hmarks : ∀ c ∈ marks, p c = false) (hfront : ∀ c ∈ front, p c) (hfront' : ∀ c ∈ front', p c)
    (hrest : StopsAt marks rest) (hrest' : StopsAt marks rest')
    (h : front ++ rest = front' ++ rest') : front = front' ∧ rest = rest' := by
  have hnone : ∀ text, StopsAt marks text → text.takeWhile p = [] := by
    intro text htext
    cases text with
    | nil => rfl
    | cons c text => simp [hmarks c (stopsAt_cons.mp htext)]
  have hfronts : front = front' := by
    have htake := congrArg (List.takeWhile p) h
    rwa [List.takeWhile_append_of_pos hfront, List.takeWhile_append_of_pos hfront',
      hnone rest hrest, hnone rest' hrest', List.append_nil, List.append_nil] at htake
  subst hfronts
  exact ⟨rfl, List.append_cancel_left h⟩

/-! ## Reading -/

/-- What is written as `text` and followed by one of some marks is read off
the front of a text in one way, among things that are `good`. -/
def Reads {α : Type} (good : α → Prop) (text : α → String) (marks : List Char) (a : α) : Prop :=
  ∀ b rest rest', good b → StopsAt marks rest → StopsAt marks rest' →
    (text a).toList ++ rest = (text b).toList ++ rest' → a = b ∧ rest = rest'

section

variable {α : Type} {good : α → Prop} {text : α → String} {marks marks' : List Char} {a : α}

/-- With fewer marks to stop at, it is read as well. -/
theorem Reads.mono (hsub : marks' ⊆ marks) (h : Reads good text marks a) :
    Reads good text marks' a :=
  fun b rest rest' hb hrest hrest' => h b rest rest' hb (hrest.mono hsub) (hrest'.mono hsub)

/-- Reading up to one mark. -/
theorem Reads.before {c : Char} (hc : c ∈ marks) (h : Reads good text marks a) {b : α}
    (hb : good b) {rest rest' : List Char}
    (heq : (text a).toList ++ c :: rest = (text b).toList ++ c :: rest') :
    a = b ∧ rest = rest' := by
  obtain ⟨hab, hrests⟩ := h b _ _ hb (stopsAt_cons.mpr hc) (stopsAt_cons.mpr hc) heq
  exact ⟨hab, (List.cons.inj hrests).2⟩

end

/-! ## Numbers -/

/-- A character that numbers are written with. -/
def isNumeral (c : Char) : Bool := c.isDigit || c == '-'

/-- An integer is written with digits and a sign. -/
theorem isNumeral_of_mem {i : Int} {c : Char} (h : c ∈ (toString i).toList) :
    isNumeral c = true := by
  have hdigit : ∀ n : Nat, c ∈ n.repr.toList → isNumeral c = true := by
    intro n hn
    rw [Nat.toList_repr] at hn
    simp [isNumeral, Nat.isDigit_of_mem_toDigits (by decide) (by decide) hn]
  cases i with
  | ofNat n => exact hdigit n h
  | negSucc n =>
    change c ∈ ("-" ++ (n + 1).repr).toList at h
    rw [String.toList_append, List.mem_append] at h
    rcases h with h | h
    · obtain rfl : c = '-' := by simpa using h
      rfl
    · exact hdigit (n + 1) h

/-- Numbers are read up to a comma or a bracket. -/
theorem reads_int (i : Int) : Reads (fun _ => True) (fun j : Int => toString j) [',', ']'] i := by
  intro j rest rest' _ hrest hrest' h
  have hmarks : ∀ c ∈ [',', ']'], isNumeral c = false := by simp [isNumeral]
  have hnumerals : ∀ k : Int, ∀ c ∈ (toString k).toList, isNumeral c = true :=
    fun _ _ hc => isNumeral_of_mem hc
  obtain ⟨htext, hrest⟩ :=
    append_inj_of_stopsAt hmarks (hnumerals i) (hnumerals j) hrest hrest' h
  exact ⟨Int.repr_injective (String.toList_injective htext), hrest⟩

/-- A natural number is read up to a comma or a bracket. -/
theorem reads_nat (n : Nat) : Reads (fun _ => True) (fun m : Nat => toString m) [',', ']'] n := by
  intro m rest rest' _ hrest hrest' h
  obtain ⟨hnumbers, hrests⟩ := reads_int n m rest rest' trivial hrest hrest' h
  exact ⟨Int.ofNat_inj.mp hnumbers, hrests⟩

/-! ## Lists with commas -/

section Lists

variable {α : Type} {good : α → Prop} {text : α → String} {close : Char}

/-- Things behind the first of several, each with a comma before it. -/
def furtherChars (text : α → String) (xs : List α) : List Char :=
  xs.flatMap fun x => ',' :: ' ' :: (text x).toList

/-- A comma list is its first item and what follows it. -/
theorem toList_commaSeparated (text : α → String) (x : α) (xs : List α) :
    (Descriptor.commaSeparated ((x :: xs).map text)).toList =
      (text x).toList ++ furtherChars text xs := by
  unfold Descriptor.commaSeparated furtherChars
  induction xs generalizing x with
  | nil => simp
  | cons y ys ih =>
    rw [List.map_cons, List.map_cons, String.intercalate_cons_cons, ← List.map_cons,
      String.toList_append, String.toList_append, ih y]
    simp

/-- What follows an item begins with a comma or closes the list. -/
theorem stopsAt_furtherChars (xs : List α) (rest : List Char) :
    StopsAt [',', close] (furtherChars text xs ++ close :: rest) := by
  cases xs <;> simp [furtherChars]

/-- Items that can be read each make a list that can be read, up to where it closes. -/
theorem furtherChars_inj (hclose : close ≠ ',') {xs ys : List α}
    (hread : ∀ x ∈ xs, Reads good text [',', close] x) (hys : ∀ y ∈ ys, good y)
    {rest rest' : List Char}
    (h : furtherChars text xs ++ close :: rest = furtherChars text ys ++ close :: rest') :
    xs = ys ∧ rest = rest' := by
  induction xs generalizing ys with
  | nil =>
    cases ys with
    | nil => simpa [furtherChars] using h
    | cons y ys => simp [furtherChars, hclose] at h
  | cons x xs ih =>
    cases ys with
    | nil => simp [furtherChars, Ne.symm hclose] at h
    | cons y ys =>
      obtain ⟨hx, hmore⟩ := List.forall_mem_cons.mp hread
      obtain ⟨hy, hothers⟩ := List.forall_mem_cons.mp hys
      have htexts : (text x).toList ++ (furtherChars text xs ++ close :: rest) =
          (text y).toList ++ (furtherChars text ys ++ close :: rest') := by
        simpa [furtherChars] using h
      obtain ⟨rfl, hbehind⟩ := hx y _ _ hy (stopsAt_furtherChars xs rest)
        (stopsAt_furtherChars ys rest') htexts
      obtain ⟨rfl, hrest⟩ := ih hmore hothers hbehind
      exact ⟨rfl, hrest⟩

/-- Things with commas between them are read up to what closes them, if none
of them begins with that. -/
theorem commaSeparated_inj (hclose : close ≠ ',')
    (hopen : ∀ a, good a → ∀ rest, ¬ StopsAt [close] ((text a).toList ++ rest)) {xs ys : List α}
    (hread : ∀ x ∈ xs, Reads good text [',', close] x) (hxs : ∀ x ∈ xs, good x)
    (hys : ∀ y ∈ ys, good y) {rest rest' : List Char}
    (h : (Descriptor.commaSeparated (xs.map text)).toList ++ close :: rest =
      (Descriptor.commaSeparated (ys.map text)).toList ++ close :: rest') :
    xs = ys ∧ rest = rest' := by
  cases xs with
  | nil =>
    cases ys with
    | nil => simpa [Descriptor.commaSeparated] using h
    | cons y ys =>
      rw [toList_commaSeparated, List.append_assoc] at h
      refine absurd ?_ (hopen y (hys y List.mem_cons_self) (furtherChars text ys ++ close :: rest'))
      rw [← h]
      simp [Descriptor.commaSeparated]
  | cons x xs =>
    rw [toList_commaSeparated, List.append_assoc] at h
    cases ys with
    | nil =>
      refine absurd ?_ (hopen x (hxs x List.mem_cons_self) (furtherChars text xs ++ close :: rest))
      rw [h]
      simp [Descriptor.commaSeparated]
    | cons y ys =>
      rw [toList_commaSeparated, List.append_assoc] at h
      obtain ⟨hx, hmore⟩ := List.forall_mem_cons.mp hread
      obtain ⟨hy, hothers⟩ := List.forall_mem_cons.mp hys
      obtain ⟨rfl, hbehind⟩ := hx y _ _ hy (stopsAt_furtherChars xs rest)
        (stopsAt_furtherChars ys rest') h
      obtain ⟨rfl, hrest⟩ := furtherChars_inj hclose hmore hothers hbehind
      exact ⟨rfl, hrest⟩

end Lists

end Conformance
