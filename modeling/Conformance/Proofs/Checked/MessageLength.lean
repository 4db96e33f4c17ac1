import Mathlib.Data.Int.Interval
import Mathlib.Data.Set.Finite.Lattice
import Mathlib.Data.Set.Finite.List
import Conformance.Checked
import Conformance.Proofs.Descriptor.WellFormed
import Conformance.Proofs.Run
import Conformance.Proofs.Validate.Diagnosis
import Conformance.Proofs.Value.Brief

/-!
# Conformance.Proofs.Checked.MessageLength

How long the message of a rejected call is.

Where a value departs from a descriptor and what is expected there are taken
from a finite list (`places`), and what was found is told in brief.  What is
told in full is counted by `inFull`:

* the keys of a mapping that no field declares;
* how many items there are, for a pair or a vector;
* the argument, in the message about a result.

The rest of a message is bounded for each signature, whatever the values
are.  So the messages of a signature are bounded exactly if there is nothing
to be told in full at any length: the values that the input admits have
short texts (`isShort`), and the output is no container (`isFlat`).
-/

namespace Conformance

namespace Descriptor

/-! ## Places -/

mutual
/-- Where a mismatch may lie, with what is expected there. -/
def places : Descriptor → List (Path × Descriptor)
  | struct n fields => ([], struct n fields) :: fieldPlaces fields
  | pair n first second =>
    ([], pair n first second) ::
      (under (.index 0) (places first) ++ under (.index 1) (places second))
  | vector n length element =>
    let parts := places element
    ([], vector n length element) ::
      (List.range length).flatMap fun (i : Nat) => under (.index i) parts
  | maybe n inner => ([], maybe n inner) :: places inner
  | d => [([], d)]
/-- The places in fields. -/
def fieldPlaces : List (String × Descriptor) → List (Path × Descriptor)
  | [] => []
  | (n, d) :: fields => under (.field n) (places d) ++ fieldPlaces fields
end

/-- The whole is a place of its own. -/
theorem mem_places_self (d : Descriptor) : ([], d) ∈ d.places := by
  cases d with
  | _ => simp [places]

/-- A place of a part is one of the whole, one segment further down. -/
theorem mem_under_of_mem {s : Segment} {parts : List (Path × Descriptor)} {path : Path}
    {e : Descriptor} (h : (path, e) ∈ parts) : (s :: path, e) ∈ under s parts :=
  List.mem_map.mpr ⟨(path, e), h, rfl⟩

theorem mem_fieldPlaces {fields : List (String × Descriptor)} {name : String} {d e : Descriptor}
    {path : Path} (hd : (name, d) ∈ fields) (h : (path, e) ∈ d.places) :
    (.field name :: path, e) ∈ fieldPlaces fields := by
  induction fields with
  | nil => cases hd
  | cons f fields ih =>
    obtain ⟨n, g⟩ := f
    rw [fieldPlaces, List.mem_append]
    rcases List.mem_cons.mp hd with heq | hmem
    · obtain ⟨rfl, rfl⟩ := Prod.mk.inj heq
      exact .inl (mem_under_of_mem h)
    · exact .inr (ih hmem)

/-- What is reached below a field is declared as one. -/
theorem Reaches.mem {fields : List (String × Descriptor)} {entries : List (Value × Value)}
    {name : String} {e : Descriptor} (h : Reaches fields entries name e) : (name, e) ∈ fields := by
  obtain ⟨-, before, after, rfl, -⟩ := h
  simp

/-- A value departs from a descriptor at one of its places. -/
theorem Departs.mem_places {d : Descriptor} {v : Value} {m : Mismatch} (h : d.Departs v m) :
    (m.path, m.expected) ∈ d.places := by
  induction h with
  | @here d v reason h => exact mem_places_self d
  | @absent n fields entries name e hreach h =>
    rw [places]
    exact List.mem_cons_of_mem _ (mem_fieldPlaces hreach.mem (mem_places_self e))
  | field hreach hw h ih =>
    rw [places]
    exact List.mem_cons_of_mem _ (mem_fieldPlaces hreach.mem ih)
  | first hv h ih =>
    rw [places]
    exact List.mem_cons_of_mem _ (List.mem_append_left _ (mem_under_of_mem ih))
  | second hv ha h ih =>
    rw [places]
    exact List.mem_cons_of_mem _ (List.mem_append_right _ (mem_under_of_mem ih))
  | @item n length element v before w after m hv hlength hbefore h ih =>
    have hindex : before.length ∈ List.range length := by
      rw [List.mem_range, ← hlength, List.length_append, List.length_cons]
      omega
    rw [places]
    exact List.mem_cons_of_mem _ (List.mem_flatMap.mpr ⟨_, hindex, mem_under_of_mem ih⟩)
  | inner h ih =>
    rw [places]
    exact List.mem_cons_of_mem _ ih

/-! ## Reasons -/

/-- How much of a refused value its reason tells in full. -/
def inFull (d : Descriptor) (v : Value) : Nat :=
  match d, v with
  | struct _ fields, .dict entries =>
    (", ".intercalate ((undeclared fields entries).map Value.written)).length
  | pair _ _ _, .tuple items | pair _ _ _, .list items | vector _ _ _, .tuple items
  | vector _ _ _, .list items => (toString items.length).length
  | _, _ => 0

/-- A length that the rest of a reason does not exceed. -/
def wording : Descriptor → Nat
  | integer _ _ low high =>
    40 + ("out of range [" ++ toString low ++ ", " ++ toString high ++ "]").length
  | vector _ length _ => 40 + (toString length).length
  | _ => 40

/-- There is room for forty characters of words with every descriptor. -/
theorem forty_le_wording (d : Descriptor) : 40 ≤ d.wording := by
  cases d with
  | integer | vector => exact Nat.le_add_right _ _
  | _ => exact Nat.le_refl _

/-- What a reason comes to: what it tells in full, and words. -/
def ReasonFor (d : Descriptor) (v : Value) (reason : String) : Prop :=
  d.inFull v ≤ reason.length ∧ reason.length ≤ d.wording + d.inFull v

/-- A short reason that tells nothing in full is within its bounds. -/
theorem reasonFor_of_short {d : Descriptor} {v : Value} {reason : String} (hv : d.inFull v = 0)
    (hreason : reason.length ≤ 40) : d.ReasonFor v reason := by
  have hwording := d.forty_le_wording
  unfold ReasonFor
  omega

/-- The reason of a wrong number of items is as long as the two numbers and ten characters. -/
theorem length_arityReason (found expected : Nat) : (arityReason found expected).length =
    (toString found).length + (toString expected).length + 10 := by
  have harity : ("arity " : String).length = 6 ∧ (" != " : String).length = 4 := by decide
  simp only [arityReason, String.length_append]
  omega

/-- The expectation at a departure is the descriptor itself or a part of it. -/
theorem Departs.sizeOf_le {d : Descriptor} {v : Value} {m : Mismatch} (h : d.Departs v m) :
    sizeOf m.expected ≤ sizeOf d := by
  have hfield : ∀ {n fields name} {e : Descriptor}, (name, e) ∈ fields →
      sizeOf e ≤ sizeOf (struct n fields) := by
    intro n fields name e hmem
    have hlt := List.sizeOf_lt_of_mem hmem
    simp only [struct.sizeOf_spec, Prod.mk.sizeOf_spec] at hlt ⊢
    omega
  induction h with
  | here => exact Nat.le_refl _
  | absent hreach h => exact hfield hreach.mem
  | field hreach hw h ih => exact Nat.le_trans ih (hfield hreach.mem)
  | first hv h ih | second hv ha h ih | item hv hlength hbefore h ih | inner h ih =>
    refine Nat.le_trans ih ?_
    simp only [pair.sizeOf_spec, vector.sizeOf_spec, maybe.sizeOf_spec]
    omega

/-- A mapping without undeclared keys is not refused as it stands. -/
theorem validateFields_ne_mismatch {n : Option String} {fields : List (String × Descriptor)}
    {entries : List (Value × Value)} {v : Value} {reason : String} :
    validateFields fields entries ≠ (struct n fields).mismatch v reason := by
  have hfields := validatedFields fields entries
  intro h
  rw [h, mismatch] at hfields
  generalize htold : some (⟨[], struct n fields, v, reason⟩ : Mismatch) = told at hfields
  cases hfields with
  | accepted | absent | refused => simp [Mismatch.under] at htold

/-- What departs inside a part does not depart at the whole. -/
theorem under_ne_mismatch {d : Descriptor} {v : Value} {reason : String} (s : Segment)
    (m : Mismatch) : some (m.under s) ≠ d.mismatch v reason := by
  simp [mismatch, Mismatch.under]

/-- A sequence that has not two items is refused for a pair as a whole. -/
theorem validate_pair_arity {n : Option String} {first second : Descriptor} {v : Value}
    {items : List Value} (hv : v.IsSequence items) (h : items.length ≠ 2) :
    (pair n first second).validate v =
      (pair n first second).mismatch v (arityReason items.length 2) := by
  cases hv with
  | tuple | list =>
    match items with
    | [] | [_] | _ :: _ :: _ :: _ => rfl
    | [_, _] => exact absurd rfl h

theorem validate_vector_arity {n : Option String} {length : Nat} {element : Descriptor}
    {v : Value} {items : List Value} (hv : v.IsSequence items) (h : items.length ≠ length) :
    (vector n length element).validate v =
      (vector n length element).mismatch v (arityReason items.length length) := by
  cases hv with
  | tuple | list => rw [validate, if_neg h]

/-- The reason of a wrong number of items tells the number that was found in full. -/
theorem reasonFor_arity {d : Descriptor} {v : Value} {found expected : Nat}
    (hv : d.inFull v = (toString found).length)
    (hwording : (toString expected).length + 10 ≤ d.wording) :
    d.ReasonFor v (arityReason found expected) := by
  have hlength := length_arityReason found expected
  unfold ReasonFor
  omega

/-- Of a sequence in the place of a pair the number of items is told. -/
theorem inFull_pair {n : Option String} {first second : Descriptor} {v : Value}
    {items : List Value} (hv : v.IsSequence items) :
    (pair n first second).inFull v = (toString items.length).length := by
  cases hv with
  | tuple | list => rfl

theorem inFull_vector {n : Option String} {length : Nat} {element : Descriptor} {v : Value}
    {items : List Value} (hv : v.IsSequence items) :
    (vector n length element).inFull v = (toString items.length).length := by
  cases hv with
  | tuple | list => rfl

/-- Why a sequence is no such pair is told within the bounds of a reason. -/
theorem reasonFor_pair {n : Option String} {first second : Descriptor} {v : Value}
    {items : List Value} {reason : String} (hv : v.IsSequence items)
    (h : (pair n first second).validate v = (pair n first second).mismatch v reason) :
    (pair n first second).ReasonFor v reason := by
  by_cases hlength : items.length = 2
  · obtain ⟨a, b, rfl⟩ := List.length_eq_two.mp hlength
    rw [validate_pair hv] at h
    split at h
    · exact absurd h (under_ne_mismatch _ _)
    · obtain ⟨m, -, hm⟩ := Option.map_eq_some_iff.mp h
      exact absurd (congrArg some hm) (under_ne_mismatch _ _)
  · rw [validate_pair_arity hv hlength] at h
    obtain rfl : arityReason items.length 2 = reason := by simpa [mismatch] using h
    have hwording : (toString 2).length + 10 ≤ 40 := by decide
    exact reasonFor_arity (inFull_pair hv) hwording

theorem reasonFor_vector {n : Option String} {length : Nat} {element : Descriptor} {v : Value}
    {items : List Value} {reason : String} (hv : v.IsSequence items)
    (h : (vector n length element).validate v = (vector n length element).mismatch v reason) :
    (vector n length element).ReasonFor v reason := by
  by_cases hlength : items.length = length
  · rw [validate_vector hv hlength] at h
    rcases firstMismatch_cases (fun w => element.validate w) 0 items with
      ⟨-, hnone⟩ | ⟨before, w, after, m, -, -, -, hsome⟩
    · cases hnone.symm.trans h
    · exact absurd (hsome.symm.trans h) (under_ne_mismatch _ _)
  · rw [validate_vector_arity hv hlength] at h
    obtain rfl : arityReason items.length length = reason := by simpa [mismatch] using h
    refine reasonFor_arity (inFull_vector hv) ?_
    rw [wording]
    omega

/-- A refusal of the value itself gives such a reason. -/
theorem reasonFor_of_validate {d : Descriptor} {v : Value} {reason : String}
    (h : d.validate v = d.mismatch v reason) : d.ReasonFor v reason := by
  cases d with
  | boolean n =>
    cases v with
    | bool b => cases h
    | _ =>
      obtain rfl : "expected a bool" = reason := by simpa [validate, mismatch] using h
      exact reasonFor_of_short rfl (by decide)
  | string n =>
    cases v with
    | str x => cases h
    | _ =>
      obtain rfl : "expected a str" = reason := by simpa [validate, mismatch] using h
      exact reasonFor_of_short rfl (by decide)
  | number n =>
    cases v with
    | int i => cases h
    | float x =>
      obtain ⟨-, rfl⟩ : _ ∧ "number is not finite" = reason := by
        simpa [validate, mismatch] using h
      exact reasonFor_of_short rfl (by decide)
    | _ =>
      obtain rfl : "expected a number" = reason := by simpa [validate, mismatch] using h
      exact reasonFor_of_short rfl (by decide)
  | integer n kind low high =>
    cases v with
    | int i =>
      obtain ⟨-, rfl⟩ : _ ∧
          "out of range [" ++ toString low ++ ", " ++ toString high ++ "]" = reason := by
        simpa [validate, mismatch] using h
      exact ⟨Nat.zero_le _, Nat.le_add_left _ _⟩
    | _ =>
      obtain rfl : "expected an int" = reason := by simpa [validate, mismatch] using h
      exact reasonFor_of_short rfl (by decide)
  | enum n labels =>
    cases v with
    | str x =>
      obtain ⟨-, rfl⟩ : _ ∧ "not one of the declared labels" = reason := by
        simpa [validate, mismatch] using h
      exact reasonFor_of_short rfl (by decide)
    | _ =>
      obtain rfl : "not one of the declared labels" = reason := by
        simpa [validate, mismatch] using h
      exact reasonFor_of_short rfl (by decide)
  | struct n fields =>
    cases v with
    | dict entries =>
      cases hkeys : undeclared fields entries with
      | nil =>
        simp only [validate, hkeys] at h
        exact absurd h validateFields_ne_mismatch
      | cons key keys =>
        simp only [validate, hkeys] at h
        obtain rfl : "unexpected field(s) " ++
            ", ".intercalate ((key :: keys).map Value.written) = reason := by
          simpa [mismatch] using h
        have hwords : ("unexpected field(s) " : String).length = 20 := by decide
        simp only [ReasonFor, inFull, wording, hkeys, String.length_append]
        omega
    | _ =>
      obtain rfl : "expected a mapping" = reason := by simpa [validate, mismatch] using h
      exact reasonFor_of_short rfl (by decide)
  | pair n first second =>
    cases v with
    | tuple items => exact reasonFor_pair (.tuple items) h
    | list items => exact reasonFor_pair (.list items) h
    | _ =>
      obtain rfl : "expected a 2-item tuple" = reason := by simpa [validate, mismatch] using h
      exact reasonFor_of_short rfl (by decide)
  | vector n length element =>
    cases v with
    | tuple items => exact reasonFor_vector (.tuple items) h
    | list items => exact reasonFor_vector (.list items) h
    | _ =>
      obtain rfl : "expected a list" = reason := by simpa [validate, mismatch] using h
      exact reasonFor_of_short rfl (by decide)
  | maybe n inner =>
    cases v with
    | nothing => cases h
    | just w =>
      have hdeparts : inner.Departs w ⟨[], maybe n inner, .just w, reason⟩ := departs_of_validate h
      have hsize := hdeparts.sizeOf_le
      simp only [maybe.sizeOf_spec] at hsize
      omega
    | _ =>
      obtain rfl : "expected None or Just(...)" = reason := by simpa [validate, mismatch] using h
      exact reasonFor_of_short rfl (by decide)
  | fn n input output =>
    obtain ⟨-, rfl⟩ : _ ∧ "not callable" = reason := by simpa [validate, mismatch] using h
    exact reasonFor_of_short (by cases v <;> rfl) (by decide)

/-- Also the reason for an absent field is one. -/
theorem Departs.reasonFor {d : Descriptor} {v : Value} {m : Mismatch} (h : d.Departs v m) :
    m.expected.ReasonFor m.actual m.reason := by
  induction h with
  | here h => exact reasonFor_of_validate h
  | @absent n fields entries name e hreach h =>
    have hreason : ("missing field" : String).length ≤ 40 := by decide
    exact reasonFor_of_short (by cases e <;> rfl) hreason
  | field _ _ _ ih | first _ _ ih | second _ _ _ ih | item _ _ _ _ ih | inner _ ih => exact ih

end Descriptor

/-! ## Messages -/

/-- How much of what was found is told in full. -/
def Mismatch.inFull (m : Mismatch) : Nat := m.expected.inFull m.actual

/-- How much of the argument and of what was found is told in full. -/
def Error.inFull : Error → Nat
  | argument m _ _ _ => m.inFull
  | result m _ x _ => x.written.length + m.inFull
  | _ => 0

namespace Descriptor

/-- What a message tells of a place. -/
def placeLength (place : Path × Descriptor) : Nat :=
  (Path.place place.1.text).length + place.2.render.length + place.2.wording

/-- A mismatch is described at the length of its place, of brief texts, and of
what is told in full. -/
theorem Departs.length_describe {d : Descriptor} {v : Value} {m : Mismatch} (h : d.Departs v m) :
    m.inFull ≤ m.describe.length ∧ m.describe.length ≤ placeLength (m.path, m.expected) +
      Value.messageLimits.bound Value.messageLimits.level + 30 + m.inFull := by
  obtain ⟨hlow, hhigh⟩ := h.reasonFor
  have hbrief := m.actual.length_brief_le
  have hwords : ("at " : String).length = 3 ∧ (": expected " : String).length = 11 ∧
      (", got " : String).length = 6 ∧ (" (" : String).length = 2 ∧ (")" : String).length = 1 := by
    decide
  simp only [Mismatch.describe, Mismatch.location, Mismatch.inFull, placeLength,
    String.length_append]
  split
  · next hempty =>
    have hreason : m.reason.length = 0 := by
      rw [String.isEmpty_iff.mp hempty]
      rfl
    have hnothing : ("" : String).length = 0 := rfl
    omega
  · simp only [String.length_append]
    omega

/-- The messages about the values of a descriptor are bounded but for what
they tell in full. -/
theorem exists_describe_bound (d : Descriptor) : ∃ bound, ∀ v m, d.validate v = some m →
    m.inFull ≤ m.describe.length ∧ m.describe.length ≤ bound + m.inFull := by
  obtain ⟨bound, hbound⟩ := (d.places.finite_toSet.image placeLength).bddAbove
  refine ⟨bound + Value.messageLimits.bound Value.messageLimits.level + 30, fun v m h => ?_⟩
  have hdeparts := departs_of_validate h
  have hplace : placeLength (m.path, m.expected) ≤ bound :=
    hbound ⟨_, hdeparts.mem_places, rfl⟩
  obtain ⟨hlow, hhigh⟩ := hdeparts.length_describe
  omega

end Descriptor

namespace Signature

/-- An error that a checked call ends with whose function returns a result. -/
def Raises (s : Signature) (function : String) (e : Error) : Prop :=
  ∃ (f : Traced → Run Traced) (x r : Traced), (f x).outcome = .ok r ∧
    (s.guard function f x).outcome = .error (.of e)

/-- The errors are those about an argument that does not conform, and those
about a result that does not, of an argument that does. -/
theorem raises_iff {s : Signature} {function : String} {e : Error} : s.Raises function e ↔
    (∃ v m origin, s.input.validate v = some m ∧ e = .argument m function v origin) ∨
    (∃ v r m, s.input.validate v = none ∧ s.output.validate r = some m ∧
      e = .result m function v r) := by
  constructor
  · rintro ⟨f, x, r, hr, he⟩
    unfold guard at he
    split at he
    · next m hm =>
      cases he
      exact .inl ⟨x.value, m, x.origin, hm, rfl⟩
    · next hnone =>
      rw [Run.bind_of_ok hr] at he
      split at he
      · next m hm =>
        cases he
        exact .inr ⟨x.value, r.value, m, hnone, hm, rfl⟩
      · cases he
  · rintro (⟨v, m, origin, hm, rfl⟩ | ⟨v, r, m, hv, hm, rfl⟩)
    · refine ⟨fun x => pure x, .whole v origin, .whole v origin, rfl, ?_⟩
      simp only [guard, Traced.value, hm]
      rfl
    · refine ⟨fun _ => pure (.whole r .made), .whole v .made, .whole r .made, rfl, ?_⟩
      simp only [guard, Traced.value, hv, pure_bind, hm]
      rfl

/-- The messages of a signature are bounded but for what they tell in full. -/
theorem exists_text_bound (s : Signature) (function : String) : ∃ bound, ∀ e,
    s.Raises function e → e.inFull ≤ e.text.length ∧ e.text.length ≤ bound + e.inFull := by
  obtain ⟨inputBound, hinput⟩ := s.input.exists_describe_bound
  obtain ⟨outputBound, houtput⟩ := s.output.exists_describe_bound
  have hwords : ("argument to " : String).length = 12 ∧ ("() rejected: " : String).length = 13 ∧
      ("result of " : String).length = 10 ∧ ("(" : String).length = 1 ∧
      (") rejected: " : String).length = 12 := by decide
  refine ⟨inputBound + outputBound + function.length + 30, fun e he => ?_⟩
  rcases raises_iff.mp he with ⟨v, m, origin, hm, rfl⟩ | ⟨v, r, m, -, hm, rfl⟩
  · obtain ⟨hlow, hhigh⟩ := hinput v m hm
    simp only [Error.inFull, Error.text, String.length_append]
    omega
  · obtain ⟨hlow, hhigh⟩ := houtput r m hm
    simp only [Error.inFull, Error.text, String.length_append]
    omega

end Signature

namespace Descriptor

/-! ## Signatures without a bound -/

/-- Inside its `maybe` layers a descriptor is no container. -/
def isFlat : Descriptor → Bool
  | struct .. | pair .. | vector .. => false
  | maybe _ inner => isFlat inner
  | _ => true

/-- Inside its `maybe` layers a descriptor admits none but a few values. -/
def isShort : Descriptor → Bool
  | boolean _ | integer .. | enum .. => true
  | maybe _ inner => isShort inner
  | _ => false

theorem isFlat_of_isShort : {d : Descriptor} → d.isShort → d.isFlat
  | boolean _, _ | integer .., _ | enum .., _ => rfl
  | maybe _ inner, h => isFlat_of_isShort (d := inner) h

/-- A number has as many digits as it has powers of ten. -/
theorem le_length_toString {k n : Nat} (h : Nat.pow 10 k ≤ n) : k ≤ (toString n).length := by
  rcases Nat.eq_zero_or_pos k with rfl | hk
  · exact Nat.zero_le _
  · have hlong : ¬ n.repr.length ≤ k := by
      rw [Nat.length_repr_le_iff hk]
      exact Nat.not_lt.mpr h
    exact Nat.le_of_lt (Nat.not_le.mp hlong)

/-- A container is refused with a count of any length, or with keys of any length. -/
theorem exists_long_mismatch : {d : Descriptor} → d.isFlat = false → (k : Nat) →
    ∃ v m, d.validate v = some m ∧ k ≤ m.inFull
  | struct n fields, _, k => by
      have hkeys : undeclared fields [(.int (Nat.pow 10 k : Nat), .nothing)] =
          [.int (Nat.pow 10 k : Nat)] := rfl
      refine ⟨.dict [(.int (Nat.pow 10 k : Nat), .nothing)], ⟨[], _, _, _⟩,
        by simp only [validate, hkeys]; rfl, ?_⟩
      show k ≤ (", ".intercalate ((undeclared fields _).map Value.written)).length
      rw [hkeys, List.map_singleton, String.intercalate_singleton]
      exact le_length_toString (Nat.le_refl _)
  | pair n first second, _, k => by
      have hlong : (List.replicate (Nat.pow 10 k + 2 + 1) Value.nothing).length ≠ 2 := by
        rw [List.length_replicate]
        omega
      refine ⟨_, _, validate_pair_arity (.list _) hlong, ?_⟩
      show k ≤ (toString (List.replicate _ _).length).length
      rw [List.length_replicate]
      exact le_length_toString (by omega)
  | vector n length element, _, k => by
      have hlong : (List.replicate (Nat.pow 10 k + length + 1) Value.nothing).length ≠ length := by
        rw [List.length_replicate]
        omega
      refine ⟨_, _, validate_vector_arity (.list _) hlong, ?_⟩
      show k ≤ (toString (List.replicate _ _).length).length
      rw [List.length_replicate]
      exact le_length_toString (by omega)
  | maybe n inner, h, k => by
      obtain ⟨v, m, hm, hk⟩ := exists_long_mismatch (d := inner) h k
      exact ⟨.just v, m, hm, hk⟩

/-- Whatever refuses no container tells nothing in full. -/
theorem Departs.inFull_eq_zero {d : Descriptor} {v : Value} {m : Mismatch} (h : d.Departs v m)
    (hd : d.isFlat) : m.inFull = 0 := by
  induction h with
  | @here d v reason h =>
    cases d with
    | struct | pair | vector => cases hd
    | _ => cases v <;> rfl
  | inner h ih => exact ih hd
  | absent | field | first | second | item => cases hd

/-- Quotes and escapes only add to a text. -/
theorem length_le_quoted (s : String) : s.length ≤ (Text.quoted s).length := by
  have hone : ∀ mark c, 1 ≤ (Text.escapeChar Text.isPrintable mark c).length := by
    intro mark c
    unfold Text.escapeChar Text.escapeCode
    repeat' split
    all_goals simp
  have hall : ∀ mark (cs : List Char),
      cs.length ≤ (cs.flatMap (Text.escapeChar Text.isPrintable mark)).length := by
    intro mark cs
    induction cs with
    | nil => exact Nat.zero_le _
    | cons c cs ih =>
      have hc := hone mark c
      rw [List.flatMap_cons, List.length_append, List.length_cons]
      omega
  have hchars := hall (Text.markFor s.toList) s.toList
  rw [String.length_toList] at hchars
  simp only [Text.quoted, String.length_ofList, Text.enclose, List.length_append, List.length_cons]
  omega

/-- What is no container and not short admits values of any length. -/
theorem exists_long_value : {d : Descriptor} → d.isFlat → d.isShort = false → (k : Nat) →
    ∃ v, d.Admits v ∧ k ≤ v.written.length
  | string n, _, _, k => by
      have hquoted := length_le_quoted (String.ofList (List.replicate k 'a'))
      rw [String.length_ofList, List.length_replicate] at hquoted
      exact ⟨.str _, .string n _, hquoted⟩
  | number n, _, _, k => ⟨.int (Nat.pow 10 k : Nat), .whole n _, le_length_toString (Nat.le_refl _)⟩
  | fn n input output, _, _, k => by
      refine ⟨.function (.defined 0 none none (String.ofList (List.replicate k 'a'))),
        .function n input output _, ?_⟩
      show k ≤ (String.ofList (List.replicate k 'a')).length
      rw [String.length_ofList, List.length_replicate]
  | maybe n inner, hflat, hshort, k => by
      obtain ⟨v, hv, hk⟩ := exists_long_value (d := inner) hflat hshort k
      refine ⟨.just v, .just hv, ?_⟩
      simp only [Value.written, String.length_append]
      omega

/-- The values of a short descriptor have texts of bounded length. -/
theorem exists_written_bound : {d : Descriptor} → d.isShort →
    ∃ bound, ∀ v, d.Admits v → v.written.length ≤ bound
  | boolean n, _ => by
      refine ⟨5, fun v hv => ?_⟩
      cases hv with
      | boolean _ b => cases b <;> decide
  | integer n kind low high, _ => by
      obtain ⟨bound, hbound⟩ :=
        ((Set.finite_Icc low high).image fun i => (toString i).length).bddAbove
      refine ⟨bound, fun v hv => ?_⟩
      cases hv with
      | integer hi => exact hbound ⟨_, hi, rfl⟩
  | enum n labels, _ => by
      obtain ⟨bound, hbound⟩ :=
        (labels.finite_toSet.image fun label => (Text.quoted label).length).bddAbove
      refine ⟨bound, fun v hv => ?_⟩
      cases hv with
      | label hs => exact hbound ⟨_, hs, rfl⟩
  | maybe n inner, h => by
      obtain ⟨bound, hbound⟩ := exists_written_bound (d := inner) h
      refine ⟨bound + 6, fun v hv => ?_⟩
      cases hv with
      | nothing =>
        have hnone : (Value.written .nothing).length = 4 := by decide
        omega
      | @just _ _ w hw =>
        have hwords : ("Just(" : String).length = 5 ∧ (")" : String).length = 1 := by decide
        have hinner := hbound w hw
        simp only [Value.written, String.length_append]
        omega

/-- A short descriptor that a builder hands out has a value. -/
theorem exists_admits_of_isShort : {d : Descriptor} → d.WellFormed → d.isShort → ∃ v, d.Admits v
  | boolean n, _, _ => ⟨.bool true, .boolean n true⟩
  | integer n kind low high, hd, _ => ⟨.int low, .integer ⟨Int.le_refl _, hd.2.2.1⟩⟩
  | enum n labels, hd, _ => by
      obtain ⟨label, hlabel⟩ := List.exists_mem_of_ne_nil labels hd.2.1
      exact ⟨.str label, .label hlabel⟩
  | maybe n inner, _, _ => ⟨.nothing, .nothing n inner⟩

/-- There is a value that does not conform, whatever the descriptor. -/
theorem exists_mismatch (d : Descriptor) : ∃ v m, d.validate v = some m :=
  ⟨.missing, Option.isSome_iff_exists.mp (Option.isNone_eq_false_iff.mp d.conforms_missing)⟩

end Descriptor

namespace Signature

/-- Messages of rejected calls are bounded but for what they tell in full:
for every signature and function name

1. there is a bound on the rest of every message, for all arguments and
   results: what is told in full, and the bound, are as long as the message;
2. the messages as a whole have a bound exactly if the input admits values
   with short texts only and the output is no container. -/
theorem text_bounded (s : Signature) (function : String) (hs : s.toDescriptor.WellFormed) :
    (∃ bound, ∀ e, s.Raises function e →
      e.inFull ≤ e.text.length ∧ e.text.length ≤ bound + e.inFull) ∧
    ((∃ bound, ∀ e, s.Raises function e → e.text.length ≤ bound) ↔
      s.input.isShort ∧ s.output.isFlat) := by
  obtain ⟨-, hin, -⟩ := hs
  obtain ⟨rest, hrest⟩ := s.exists_text_bound function
  refine ⟨⟨rest, hrest⟩, ?_, ?_⟩
  · rintro ⟨bound, hbound⟩
    have hfull : ∀ e, s.Raises function e → e.inFull ≤ bound :=
      fun e he => Nat.le_trans (hrest e he).1 (hbound e he)
    have hflat : s.input.isFlat := by
      by_contra hflat
      obtain ⟨v, m, hm, hlong⟩ :=
        Descriptor.exists_long_mismatch ((Bool.not_eq_true _).mp hflat) (bound + 1)
      have hle := hfull _ (raises_iff.mpr (.inl ⟨v, m, .made, hm, rfl⟩))
      exact absurd (Nat.le_trans hlong hle) (Nat.not_succ_le_self bound)
    have hshort : s.input.isShort := by
      by_contra hshort
      obtain ⟨v, hv, hlong⟩ :=
        Descriptor.exists_long_value hflat ((Bool.not_eq_true _).mp hshort) (bound + 1)
      obtain ⟨r, m, hm⟩ := s.output.exists_mismatch
      have hle := hfull _ (raises_iff.mpr (.inr ⟨v, r, m, Descriptor.validate_of_admits hv, hm, rfl⟩))
      simp only [Error.inFull] at hle
      omega
    refine ⟨hshort, ?_⟩
    by_contra hout
    obtain ⟨v, hv⟩ := Descriptor.exists_admits_of_isShort hin hshort
    obtain ⟨r, m, hm, hlong⟩ :=
      Descriptor.exists_long_mismatch ((Bool.not_eq_true _).mp hout) (bound + 1)
    have hle := hfull _ (raises_iff.mpr (.inr ⟨v, r, m, Descriptor.validate_of_admits hv, hm, rfl⟩))
    simp only [Error.inFull] at hle
    omega
  · rintro ⟨hshort, hout⟩
    obtain ⟨bound, hbound⟩ := Descriptor.exists_written_bound hshort
    refine ⟨rest + bound, fun e he => ?_⟩
    have hle := (hrest e he).2
    rcases raises_iff.mp he with ⟨v, m, origin, hm, rfl⟩ | ⟨v, r, m, hv, hm, rfl⟩
    · have hzero := (Descriptor.departs_of_validate hm).inFull_eq_zero
        (Descriptor.isFlat_of_isShort hshort)
      simp only [Error.inFull] at hle
      omega
    · have hzero := (Descriptor.departs_of_validate hm).inFull_eq_zero hout
      have hwritten := hbound v (Descriptor.admits_of_validate hv)
      simp only [Error.inFull] at hle
      omega

/-- The number of points that a level is worth. -/
def points : Signature := ⟨none, .ofInteger .uint8, .ofInteger .uint16⟩

theorem text_bounded_points : points.toDescriptor.WellFormed ∧
    ∃ bound, ∀ e, points.Raises "points" e → e.text.length ≤ bound := by
  have hs : points.toDescriptor.WellFormed := by
    simp [points, toDescriptor, Descriptor.WellFormed, Descriptor.NameWellFormed,
      Descriptor.ofInteger, IntegerKind.low, IntegerKind.high]
  obtain ⟨-, hbounded⟩ := points.text_bounded "points" hs
  exact ⟨hs, hbounded.mpr ⟨rfl, rfl⟩⟩

/-- The number of letters of a name. -/
def letters : Signature := ⟨none, .string none, .ofInteger .uint8⟩

/-- A message about a result quotes the argument in full. -/
theorem text_unbounded_letters :
    ¬ ∃ bound, ∀ e, letters.Raises "letters" e → e.text.length ≤ bound := by
  rintro ⟨bound, hbound⟩
  have hraises : letters.Raises "letters"
      (.result ⟨[], .ofInteger .uint8, .int 300, "out of range [0, 255]"⟩ "letters"
        (.str (String.ofList (List.replicate (bound + 1) 'a'))) (.int 300)) :=
    raises_iff.mpr (.inr ⟨_, _, _, rfl, rfl, rfl⟩)
  have hquoted := Descriptor.length_le_quoted (String.ofList (List.replicate (bound + 1) 'a'))
  have hle := hbound _ hraises
  rw [String.length_ofList, List.length_replicate] at hquoted
  simp only [Error.text, Value.written, String.length_append] at hle
  omega

end Signature

end Conformance
