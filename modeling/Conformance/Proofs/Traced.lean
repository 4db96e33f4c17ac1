import Conformance.Expr

/-!
# Conformance.Proofs.Traced

Traced values know where they come from.

An origin `argument i steps` says of a value that it stands at the end of
these steps in argument `i` of the call under way (`Origin.TrueOf`).  A traced
value is `Faithful` if that is so for everything it is made of.

1. The arguments of a call are faithful (`faithful_arguments`).
2. So is what any operation makes of faithful values: parts taken out, objects
   handed on, containers put together.

`Answers` says that of a result that may be an error, and that the error is
none by which a checked function rejects its argument.
-/

namespace Conformance

/-- Counted from the front, an item is picked as from any list. -/
theorem CounterExample.pick?_natCast {α : Type} (items : List α) (n : Nat) :
    pick? items n = items[n]? := by
  have hn : ¬ (n : Int) < 0 := by omega
  simp [pick?, hn]

/-- What is picked is an item, from whichever end it was counted. -/
theorem CounterExample.mem_of_pick? {α : Type} {items : List α} {i : Int} {a : α}
    (h : pick? items i = some a) : a ∈ items := by
  simp only [pick?, Option.ite_none_right_eq_some] at h
  exact List.mem_of_getElem? h.2

/-! ## Errors of operations -/

/-- Whether the error is that of a checked function that rejects its argument. -/
def Error.isRefusal : Error → Bool
  | argument .. => true
  | _ => false

/-- A result with a property, or an error that is no rejected argument. -/
def Answers {α : Type} (post : α → Prop) : Except Error α → Prop
  | .ok a => post a
  | .error e => e.isRefusal = false

namespace Answers

variable {α β : Type} {P : α → Prop} {Q : β → Prop} {x : Except Error α}

/-- Results with a property can be handed on. -/
theorem bind {f : α → Except Error β} (hx : Answers P x) (hf : ∀ a, P a → Answers Q (f a)) :
    Answers Q (x >>= f) := by
  cases x with
  | ok a => exact hf a hx
  | error e => exact hx

/-- What is made of them has the property that follows. -/
theorem map {f : α → β} (hx : Answers P x) (hf : ∀ a, P a → Q (f a)) : Answers Q (x.map f) := by
  cases x with
  | ok a => exact hf a hx
  | error e => exact hx

end Answers

/-- An operation whose errors are no rejected arguments. -/
abbrev Plain {α : Type} (x : Except Error α) : Prop := Answers (fun _ => True) x

namespace Value

/-- An integer that is too large for a double is no rejected argument. -/
theorem plain_toFloat (n : Int) : Plain (toFloat n) := by
  unfold toFloat
  dsimp only
  split
  · trivial
  · rfl

theorem Numeric.plain_toFloat : (a : Numeric) → Plain a.toFloat
  | int n => Value.plain_toFloat n
  | float _ => trivial

section

variable {ints : Int → Int → Except Error Int} {floats : Float → Float → Except Error Float}

/-- Arithmetic on two values is plain if it is on the numbers they stand for. -/
theorem plain_onNumbers (hints : ∀ n m, Plain (ints n m)) (hfloats : ∀ x y, Plain (floats x y))
    (v w : Value) : Plain (onNumbers ints floats v w) := by
  unfold onNumbers
  split
  · exact (hints _ _).map fun _ _ => trivial
  · exact (Numeric.plain_toFloat _).bind fun x _ => (Numeric.plain_toFloat _).bind fun y _ =>
      (hfloats x y).map fun _ _ => trivial
  · rfl

end

/-- An operation that has an answer for all numbers. -/
theorem plain_onAllNumbers (ints : Int → Int → Int) (floats : Float → Float → Float)
    (v w : Value) :
    Plain (onNumbers (fun n m => .ok (ints n m)) (fun x y => .ok (floats x y)) v w) := by
  refine plain_onNumbers (fun n m => ?_) (fun x y => ?_) v w
  · trivial
  · trivial

theorem plain_sub (v w : Value) : Plain (v.sub w) := plain_onAllNumbers (· - ·) (· - ·) v w

theorem plain_rem (v w : Value) : Plain (v.rem w) := by
  refine plain_onNumbers (fun n m => ?_) (fun x y => ?_) v w
  · split
    · rfl
    · trivial
  · split
    · rfl
    · trivial

/-- What cannot be added is a fault of its own. -/
theorem plain_add (v w : Value) : Plain (v.add w) := by
  unfold add
  split
  · trivial
  · trivial
  · trivial
  · trivial
  · exact plain_onAllNumbers (· + ·) (· + ·) _ _

theorem plain_mul (v w : Value) : Plain (v.mul w) := by
  unfold mul
  split
  · trivial
  · trivial
  · exact plain_onAllNumbers (· * ·) (· * ·) _ _

theorem plain_length (v : Value) : Plain v.length := by
  cases v with
  | str | bytes | list | tuple | dict => trivial
  | _ => rfl

theorem plain_asIndex (k : Value) : Plain k.asIndex := by
  unfold asIndex
  split
  · trivial
  · rfl

theorem plain_contains (v w : Value) : Plain (v.contains w) := by
  unfold contains
  split
  · trivial
  · trivial
  · split
    · trivial
    · rfl
  · split
    · trivial
    · rfl
  · split
    · trivial
    · split
      · split
        · trivial
        · rfl
      · rfl
  · rfl

theorem plain_compareBy (c : Comparison) (v w : Value) : Plain (v.compareBy c w) := by
  unfold compareBy
  split
  · trivial
  · rfl

theorem plain_magnitude (v : Value) : Plain v.magnitude := by
  unfold magnitude
  split
  · trivial
  · trivial
  · rfl

theorem plain_toInteger (v : Value) : Plain v.toInteger := by
  have htext (s : String) : Plain (toInteger.fromText s) := by
    unfold toInteger.fromText
    split
    · trivial
    · rfl
  cases v with
  | float x =>
    rw [toInteger]
    split
    · trivial
    · rfl
  | str s => exact htext s
  | bytes bs => exact htext _
  | bool | int => trivial
  | _ => rfl

theorem plain_variant (v : Value) : Plain v.variant := by
  cases v with
  | descriptor d => trivial
  | _ => rfl

/-- An item that is found is one of the items. -/
theorem answers_itemOf {α : Type} {P : α → Prop} {xs : List α} (h : ∀ x ∈ xs, P x) (i : Int) :
    Answers P (itemOf xs i) := by
  unfold itemOf
  split
  · next x hx => exact h x (CounterExample.mem_of_pick? hx)
  · rfl

/-- An entry that is found is one of the entries. -/
theorem answers_entryAt {α : Type} {P : α → Prop} {entries : List (Value × α)}
    (h : ∀ e ∈ entries, P e.2) (k : Value) : Answers P (entryAt entries k) := by
  unfold entryAt
  split
  · split
    · next e he => exact h e (List.mem_of_find?_eq_some he)
    · rfl
  · rfl

/-- To look for what is not there rejects no argument. -/
theorem plain_index (v k : Value) : Plain (v.index k) := by
  have hitem {α : Type} (xs : List α) : Plain (k.asIndex >>= fun i => itemOf xs i) :=
    (plain_asIndex k).bind fun i _ => answers_itemOf (fun _ _ => trivial) i
  cases v with
  | dict entries => exact answers_entryAt (fun _ _ => trivial) k
  | list items | tuple items => exact hitem items
  | str s => exact (plain_asIndex k).bind fun i _ =>
      (answers_itemOf (fun _ _ => trivial) i).bind fun _ _ => trivial
  | bytes bs => exact (plain_asIndex k).bind fun i _ =>
      (answers_itemOf (fun _ _ => trivial) i).bind fun _ _ => trivial
  | _ => rfl

end Value

/-- A check of a value says where it departs; no function rejects it. -/
theorem Descriptor.plain_check (d : Descriptor) (v : Value) : Plain (d.check v) := by
  unfold check
  split
  · trivial
  · rfl

/-! ## Origins -/

namespace Value

/-- The part of a value that a step leads to. -/
def part? (v : Value) : Step → Option Value
  | .key k => (v.index k).toOption
  | .inner =>
    match v with
    | just inner => some inner
    | _ => none

/-- The part of a value at the end of steps. -/
def along (v : Value) (steps : List Step) : Option Value := steps.foldlM part? v

end Value

/-- An origin says of a value where it stands among the arguments, and it
stands there. -/
def Origin.TrueOf (args : List Value) (v : Value) : Origin → Prop
  | argument i steps => ∃ u, args[i]? = some u ∧ u.along steps = some v
  | given | made => True

/-- Where a part comes from is known from where the whole comes from. -/
theorem Origin.TrueOf.part {args : List Value} {v w : Value} {o : Origin} (h : o.TrueOf args v)
    {s : Step} (hw : v.part? s = some w) : (o.part s).TrueOf args w := by
  cases o with
  | given | made => trivial
  | argument i steps =>
    obtain ⟨u, hu, hv⟩ := h
    have hend : u.along (steps ++ [s]) = some w := by
      rw [Value.along, List.foldlM_append, ← Value.along, hv]
      simpa using hw
    exact ⟨u, hu, hend⟩

/-! ## Faithful values -/

namespace Traced

/-- What a traced value says of where its parts come from is true. -/
inductive Faithful (args : List Value) : Traced → Prop
  | whole {v o} (h : o.TrueOf args v) : Faithful args (whole v o)
  | list {items} (h : ∀ t ∈ items, Faithful args t) : Faithful args (list items)
  | tuple {items} (h : ∀ t ∈ items, Faithful args t) : Faithful args (tuple items)
  | dict {entries} (h : ∀ e ∈ entries, Faithful args e.2) : Faithful args (dict entries)
  | just {inner} (h : Faithful args inner) : Faithful args (just inner)

variable {args : List Value} {t u : Traced}

theorem faithful_fresh (v : Value) : (fresh v).Faithful args := .whole trivial

/-- The origin of a faithful value is true of it. -/
theorem Faithful.origin (h : t.Faithful args) : t.origin.TrueOf args t.value := by
  cases h with
  | whole h => exact h
  | _ => trivial

/-- The arguments of a call come from where they stand. -/
theorem faithful_arguments (args : List Value) : ∀ t ∈ arguments args, t.Faithful args := by
  intro t ht
  obtain ⟨⟨v, i⟩, hv, rfl⟩ := List.mem_map.mp ht
  exact .whole ⟨v, List.mk_mem_zipIdx_iff_getElem?.mp hv, rfl⟩

/-- What a plain operation makes is new, so it is faithful. -/
theorem faithful_map_fresh {α : Type} {x : Except Error α} (hx : Plain x) (f : α → Value) :
    Answers (Faithful args) (x.map fun a => fresh (f a)) :=
  hx.map fun a _ => faithful_fresh (f a)

/-- A length is a new number. -/
theorem faithful_length (v : Value) :
    Answers (Faithful args) (v.length.map fun n => fresh (.int n)) := by
  refine faithful_map_fresh ((Value.plain_length v).bind fun n _ => ?_) .int
  trivial

/-- An item of a faithful value comes from where the value does, one step further. -/
theorem faithful_index (h : t.Faithful args) (k : Value) :
    Answers (Faithful args) (t.index k) := by
  cases h with
  | @whole v o h =>
    have hplain := Value.plain_index v k
    rw [index]
    cases hw : v.index k with
    | error e =>
      rw [hw] at hplain
      exact hplain
    | ok w =>
      have hpart : v.part? (.key k) = some w := by rw [Value.part?, hw, Except.toOption]
      exact .whole (h.part hpart)
  | list h | tuple h => exact (Value.plain_asIndex k).bind fun i _ => Value.answers_itemOf h i
  | dict h => exact Value.answers_entryAt h k
  | just => rfl

/-- What is inside a `just` comes from where the value does, one step further. -/
theorem faithful_unwrap (h : t.Faithful args) : Answers (Faithful args) t.unwrap := by
  cases h with
  | @whole v o h =>
    cases v with
    | just inner => exact .whole (h.part rfl)
    | _ => rfl
  | just h => exact h
  | _ => rfl

/-- The items of a drawn list or tuple come from their places in it. -/
theorem faithful_placed {items : List Value} {v : Value} {o : Origin} (h : o.TrueOf args v)
    (hv : v = .list items ∨ v = .tuple items) :
    ∀ u ∈ items.zipIdx.map fun x => whole x.1 (o.part (.key (.int x.2))), u.Faithful args := by
  intro u hu
  obtain ⟨⟨w, j⟩, hw, rfl⟩ := List.mem_map.mp hu
  have hget : items[j]? = some w := List.mk_mem_zipIdx_iff_getElem?.mp hw
  have hitem : Value.itemOf items (j : Int) = .ok w := by
    rw [Value.itemOf, CounterExample.pick?_natCast, hget]
  have hpart : v.part? (.key (.int j)) = some w := by
    rcases hv with rfl | rfl
    · show (Value.itemOf items (j : Int)).toOption = some w
      rw [hitem, Except.toOption]
    · show (Value.itemOf items (j : Int)).toOption = some w
      rw [hitem, Except.toOption]
  exact .whole (h.part hpart)

/-- The items of a faithful value are faithful. -/
theorem faithful_items (h : t.Faithful args) {ts : List Traced} (hts : t.items? = some ts) :
    ∀ u ∈ ts, u.Faithful args := by
  -- what is gone through in any other value is new
  have hfresh (hnew : t.items? = t.value.items?.map fun vs => vs.map fresh) :
      ∀ u ∈ ts, u.Faithful args := by
    obtain ⟨vs, -, rfl⟩ := Option.map_eq_some_iff.mp (hnew.symm.trans hts)
    intro u hu
    obtain ⟨v, -, rfl⟩ := List.mem_map.mp hu
    exact faithful_fresh v
  cases h with
  | @whole v o h =>
    cases v with
    | list items =>
      cases hts
      exact faithful_placed h (.inl rfl)
    | tuple items =>
      cases hts
      exact faithful_placed h (.inr rfl)
    | _ => exact hfresh rfl
  | list h | tuple h =>
    cases hts
    exact h
  | dict | just => exact hfresh rfl

theorem faithful_items_getD (h : t.Faithful args) : ∀ u ∈ t.items?.getD [], u.Faithful args := by
  cases hts : t.items? with
  | none => exact nofun
  | some ts => exact faithful_items h hts

/-- Items of two faithful values, one after the other. -/
theorem faithful_append (ht : t.Faithful args) (hu : u.Faithful args) :
    ∀ x ∈ t.items?.getD [] ++ u.items?.getD [], x.Faithful args := by
  intro x hx
  rcases List.mem_append.mp hx with hx | hx
  · exact faithful_items_getD ht x hx
  · exact faithful_items_getD hu x hx

/-- A sum is new, and a list of both keeps its items. -/
theorem faithful_add (ht : t.Faithful args) (hu : u.Faithful args) :
    Answers (Faithful args) (t.add u) := by
  unfold add
  split
  · split
    · exact hu
    · split
      · exact ht
      · exact faithful_fresh _
  · split
    · exact hu
    · split
      · exact ht
      · exact .tuple (faithful_append ht hu)
  · exact .list (faithful_append ht hu)
  · exact faithful_map_fresh (Value.plain_add _ _) _

/-- Text is handed on as the object it is. -/
theorem faithful_text (h : t.Faithful args) {s : String} (hs : t.value = .str s) :
    (whole (.str s) t.origin).Faithful args :=
  .whole (hs ▸ h.origin)

/-- A list repeated keeps its items. -/
theorem faithful_repeat (h : t.Faithful args) (n : Int) :
    ∀ x ∈ Value.repeatList n (t.items?.getD []), x.Faithful args := by
  intro x hx
  obtain ⟨l, hl, hx⟩ := List.mem_flatten.mp hx
  exact faithful_items_getD h x (List.eq_of_mem_replicate hl ▸ hx)

/-- A product is new, or a list repeated. -/
theorem faithful_mul (ht : t.Faithful args) (hu : u.Faithful args) :
    Answers (Faithful args) (t.mul u) := by
  unfold mul
  split
  · next hs _ => exact faithful_text ht hs
  · next hs => exact faithful_text hu hs
  · exact ht
  · exact hu
  · exact .list (faithful_repeat ht _)
  · exact .list (faithful_repeat hu _)
  · exact faithful_map_fresh (Value.plain_mul _ _) _

/-- The greatest so far is one of the values that were compared. -/
theorem faithful_extreme (c : Value.Comparison) {best : Traced} (hbest : best.Faithful args)
    {ts : List Traced} (h : ∀ t ∈ ts, t.Faithful args) :
    Answers (Faithful args) (extreme c best ts) := by
  induction ts generalizing best with
  | nil => exact hbest
  | cons t ts ih =>
    obtain ⟨ht, hts⟩ := List.forall_mem_cons.mp h
    refine (Value.plain_compareBy c _ _).bind fun better _ => ih ?_ hts
    split
    · exact ht
    · exact hbest

/-- The greatest of all is one of the values, with its origin. -/
theorem faithful_extremeOf (c : Value.Comparison) {ts : List Traced}
    (h : ∀ t ∈ ts, t.Faithful args) : Answers (Faithful args) (extremeOf c ts) := by
  unfold extremeOf
  split
  · next t =>
    split
    · next u us hitems =>
      obtain ⟨hu, hus⟩ := List.forall_mem_cons.mp
        (faithful_items (h t List.mem_cons_self) hitems)
      exact faithful_extreme c hu hus
    · rfl
    · rfl
  · next t ts _ =>
    obtain ⟨ht, hts⟩ := List.forall_mem_cons.mp h
    exact faithful_extreme c ht hts
  · rfl

theorem plain_sum (t : Traced) : Plain t.sum := by
  have hfold : ∀ (vs : List Value) (v : Value), Plain (vs.foldlM Value.add v) := by
    intro vs
    induction vs with
    | nil => exact fun v => trivial
    | cons w ws ih => exact fun v => (Value.plain_add v w).bind fun sum _ => ih sum
  unfold sum
  split
  · exact hfold _ _
  · rfl

/-- A text made of a value is new, unless the value is a text. -/
theorem faithful_toText (h : t.Faithful args) : t.toText.Faithful args := by
  unfold toText
  split
  · exact h
  · exact faithful_fresh _

/-- Entries made of pairs keep the values of the pairs. -/
theorem faithful_ofPairs : {ts : List Traced} → (∀ t ∈ ts, t.Faithful args) →
    Answers (fun entries => ∀ e ∈ entries, e.2.Faithful args) (ofPairs ts)
  | [], _ => nofun
  | [_], _ => rfl
  | k :: v :: ts, h => by
      obtain ⟨-, h⟩ := List.forall_mem_cons.mp h
      obtain ⟨hv, hts⟩ := List.forall_mem_cons.mp h
      rw [ofPairs]
      split
      · exact (faithful_ofPairs hts).bind fun entries hentries =>
          List.forall_mem_cons.mpr ⟨hv, hentries⟩
      · rfl

/-- An entry that is put in brings its value, and the others keep theirs. -/
theorem faithful_insert (key : Value) (ht : t.Faithful args) :
    {entries : List (Value × Traced)} → (∀ e ∈ entries, e.2.Faithful args) →
    ∀ e ∈ insert key t entries, e.2.Faithful args
  | [], _ => List.forall_mem_singleton.mpr ht
  | (k, u) :: entries, h => by
      obtain ⟨hu, hentries⟩ := List.forall_mem_cons.mp h
      rw [insert]
      split
      · exact List.forall_mem_cons.mpr ⟨ht, hentries⟩
      · exact List.forall_mem_cons.mpr ⟨hu, faithful_insert key ht hentries⟩

/-- A mapping is as faithful as the values of its entries. -/
theorem faithful_ofEntries {entries : List (Value × Traced)}
    (h : ∀ e ∈ entries, e.2.Faithful args) : (ofEntries entries).Faithful args := by
  have hfold : ∀ (entries set : List (Value × Traced)), (∀ e ∈ entries, e.2.Faithful args) →
      (∀ e ∈ set, e.2.Faithful args) →
      ∀ e ∈ entries.foldl (fun es e => insert e.1 e.2 es) set, e.2.Faithful args := by
    intro entries
    induction entries with
    | nil => exact fun set _ hset => hset
    | cons e entries ih =>
      intro set h hset
      obtain ⟨he, hentries⟩ := List.forall_mem_cons.mp h
      exact ih _ hentries (faithful_insert e.1 he hset)
  exact .dict (hfold entries [] h nofun)

end Traced

/-! ## Operations on faithful values -/

open Traced

variable {args : List Value} {t u : Traced}

/-- Every function of one value hands on what is true, or makes something new. -/
theorem Function.faithful_apply (f : Function) (h : t.Faithful args) :
    Answers (Faithful args) (f.apply t) := by
  cases f with
  | not => exact faithful_fresh _
  | len => exact faithful_length _
  | sum => exact faithful_map_fresh (plain_sum t) _
  | str => exact faithful_toText h
  | just => exact .just h
  | unjust => exact faithful_unwrap h
  | isNothing =>
    rw [apply]
    split
    · exact faithful_fresh _
    · exact faithful_fresh _

/-- Every operation on two values hands on what is true, or makes something new. -/
theorem Operation.faithful_apply (op : Operation) (ht : t.Faithful args) (hu : u.Faithful args) :
    Answers (Faithful args) (op.apply t u) := by
  cases op with
  | add => exact faithful_add ht hu
  | mul => exact faithful_mul ht hu
  | index => exact faithful_index ht _
  | sub => exact faithful_map_fresh (Value.plain_sub _ _) _
  | rem => exact faithful_map_fresh (Value.plain_rem _ _) _
  | contains => exact faithful_map_fresh (Value.plain_contains _ _) _
  | compare c => exact faithful_map_fresh (Value.plain_compareBy c _ _) _
  | equal | unequal => exact faithful_fresh _
  | conforms => exact faithful_map_fresh (Value.plain_variant _) _
  | check => exact (Value.plain_variant _).bind fun d _ => (d.plain_check _).bind fun _ _ => hu

/-- Every function that comes with the language hands on what is true, or makes something new. -/
theorem Builtin.faithful_apply (f : Builtin) {ts : List Traced} (h : ∀ t ∈ ts, t.Faithful args) :
    Answers (Faithful args) (f.apply ts) := by
  unfold apply
  split
  · split
    · split
      · exact h _ List.mem_cons_self
      · exact faithful_fresh _
    · exact faithful_map_fresh (Value.plain_magnitude _) _
  · exact faithful_length _
  · exact faithful_fresh _
  · split
    · exact h _ List.mem_cons_self
    · exact faithful_map_fresh (Value.plain_toInteger _) _
  · split
    · split
      · split
        · exact faithful_fresh _
        · rfl
      · rfl
    · rfl
  · exact faithful_fresh _
  · exact faithful_toText (h _ List.mem_cons_self)
  · rfl

end Conformance
