import Conformance.Proofs.Descriptor.Outcome
import Conformance.Proofs.Descriptor.Unnamed

/-!
# Conformance.Proofs.Descriptor.Built

Descriptors that come out of the builders are well-formed, whatever the
builders are given.

A descriptor is `Built` if a call of a builder came to it whose arguments hold
only descriptors that are built themselves, at whatever place in a list, a
mapping or another value.  One call keeps `WellFormed` (`wellFormed_of_call`),
so by induction any sequence of calls does.
-/

namespace Conformance

/-! ## Descriptors in values -/

namespace Value

/-- Whether a descriptor stands somewhere in a value. -/
inductive Holds : Value → Descriptor → Prop
  | self {d : Descriptor} : Holds (.descriptor d) d
  | list {items : List Value} {v : Value} {d : Descriptor} (hv : v ∈ items) (h : Holds v d) :
      Holds (.list items) d
  | tuple {items : List Value} {v : Value} {d : Descriptor} (hv : v ∈ items) (h : Holds v d) :
      Holds (.tuple items) d
  | key {entries : List (Value × Value)} {k v : Value} {d : Descriptor} (he : (k, v) ∈ entries)
      (h : Holds k d) : Holds (.dict entries) d
  | entry {entries : List (Value × Value)} {k v : Value} {d : Descriptor} (he : (k, v) ∈ entries)
      (h : Holds v d) : Holds (.dict entries) d
  | just {v : Value} {d : Descriptor} (h : Holds v d) : Holds (.just v) d

/-- Whether all descriptors in a value have a property. -/
def OnlyHolds (p : Descriptor → Prop) (v : Value) : Prop := ∀ d, v.Holds d → p d

variable {p : Descriptor → Prop}

@[simp] theorem onlyHolds_nothing : OnlyHolds p .nothing := nofun

@[simp] theorem onlyHolds_str (s : String) : OnlyHolds p (.str s) := nofun

@[simp] theorem onlyHolds_descriptor {d : Descriptor} : OnlyHolds p (.descriptor d) ↔ p d := by
  constructor
  · intro h
    exact h d .self
  · rintro h e ⟨⟩
    exact h

/-- A tuple holds what its items hold. -/
@[simp] theorem onlyHolds_tuple {items : List Value} :
    OnlyHolds p (.tuple items) ↔ ∀ v ∈ items, OnlyHolds p v := by
  constructor
  · intro h v hv d hd
    exact h d (.tuple hv hd)
  · rintro h d (_ | _ | ⟨hv, hd⟩)
    exact h _ hv d hd

/-- Going through a value leads to no further descriptors. -/
theorem OnlyHolds.of_items? {v : Value} {items : List Value} (h : OnlyHolds p v)
    (hitems : v.items? = some items) : ∀ w ∈ items, OnlyHolds p w := by
  intro w hw d hd
  cases v with
  | list others =>
    cases hitems
    exact h d (.list hw hd)
  | tuple others =>
    cases hitems
    exact h d (.tuple hw hd)
  | dict entries =>
    cases hitems
    obtain ⟨⟨k, v⟩, he, rfl⟩ := List.mem_map.mp hw
    exact h d (.key he hd)
  | str s =>
    cases hitems
    obtain ⟨c, -, rfl⟩ := List.mem_map.mp hw
    cases hd
  | bytes bs =>
    cases hitems
    obtain ⟨b, -, rfl⟩ := List.mem_map.mp hw
    cases hd
  | _ => cases hitems

end Value

/-! ## Values in requests -/

namespace Factory.Request

/-- The values of a request. -/
def values : Request → List Value
  | any => []
  | primitive name kind range => [name, kind, range]
  | enum name labels => [name, labels]
  | struct name fields => [name, fields]
  | listed fields further => fields :: further.map (·.2)
  | pair name first second => [name, first, second]
  | vector name length element => [name, length, element]
  | maybe name inner => [name, inner]
  | fn name input output => [name, input, output]
  | named target name => [target, name]

end Factory.Request

namespace Factory

variable {p : Value → Prop} {args : List Value} {named : List (String × Value)}

/-- Arguments by name are those given. -/
theorem forall_mergeNamed (h : ∀ n ∈ named, p n.2) : ∀ n ∈ mergeNamed named, p n.2 := by
  have hmerge : ∀ (more acc : List (String × Value)), (∀ n ∈ acc, p n.2) → (∀ n ∈ more, p n.2) →
      ∀ n ∈ more.foldl (fun ns n => if ns.any (·.1 == n.1) then
        ns.map fun m => if m.1 == n.1 then n else m else ns ++ [n]) acc, p n.2 := by
    intro more
    induction more with
    | nil => exact fun acc hacc _ => hacc
    | cons m more ih =>
      intro acc hacc hmore
      obtain ⟨hm, hmore⟩ := List.forall_mem_cons.mp hmore
      refine ih _ ?_ hmore
      dsimp only
      split
      · intro n hn
        obtain ⟨k, hk, rfl⟩ := List.mem_map.mp hn
        split
        · exact hm
        · exact hacc k hk
      · intro n hn
        rcases List.mem_append.mp hn with hn | hn
        · exact hacc n hn
        · exact List.mem_singleton.mp hn ▸ hm
  exact hmerge named [] (by simp) h

/-- A property of all named values is one of each. -/
theorem of_lookup {name : String} {v : Value} (h : ∀ n ∈ named, p n.2)
    (hv : named.lookup name = some v) : p v := by
  obtain ⟨front, back, rfl, -⟩ := List.lookup_eq_some_iff.mp hv
  exact h (name, v) (by simp)

/-- Each argument that is distributed was given, or is a default. -/
theorem forall_distribute {parameters : List (String × Option Value)} {vs : List Value}
    (hargs : ∀ v ∈ args, p v) (hnamed : ∀ n ∈ named, p n.2)
    (hdefaults : ∀ q ∈ parameters, ∀ v ∈ q.2, p v)
    (h : distribute args named parameters = .ok vs) : ∀ v ∈ vs, p v := by
  induction parameters generalizing args named vs with
  | nil =>
    unfold distribute at h
    split at h
    · cases h
      simp
    · cases h
  | cons q parameters ih =>
    obtain ⟨hdefault, hdefaults⟩ := List.forall_mem_cons.mp hdefaults
    have hrest : ∀ n ∈ named.filter fun n => n.1 != q.1, p n.2 :=
      fun n hn => hnamed n (List.mem_of_mem_filter hn)
    have hnone : ∀ v ∈ ([] : List Value), p v := by simp
    unfold distribute at h
    dsimp only at h
    split at h
    · next v args _ =>
      obtain ⟨others, hothers, rfl⟩ := map_eq_ok.mp h
      obtain ⟨hv, hargs⟩ := List.forall_mem_cons.mp hargs
      exact List.forall_mem_cons.mpr ⟨hv, ih hargs hrest hdefaults hothers⟩
    · cases h
    · next v hgiven =>
      obtain ⟨others, hothers, rfl⟩ := map_eq_ok.mp h
      exact List.forall_mem_cons.mpr ⟨of_lookup hnamed hgiven, ih hnone hrest hdefaults hothers⟩
    · split at h
      · next _ v hv =>
        obtain ⟨others, hothers, rfl⟩ := map_eq_ok.mp h
        exact List.forall_mem_cons.mpr
          ⟨hdefault v (by rw [hv]; rfl), ih hnone hrest hdefaults hothers⟩
      · cases h

/-- A property that the defaults have. -/
theorem forall_parameters (hnothing : p .nothing) (hstr : ∀ s, p (.str s)) (f : Factory) :
    ∀ q ∈ f.parameters, ∀ v ∈ q.2, p v := by
  cases f <;> simp [parameters, required, hnothing, hstr]

/-- The arguments that find their places are those that were given, or nothing. -/
theorem forall_place {f : Factory} {placed : Value × List Value} (hnothing : p .nothing)
    (hstr : ∀ s, p (.str s)) (hargs : ∀ v ∈ args, p v) (hnamed : ∀ n ∈ named, p n.2)
    (h : f.place args named = .ok placed) : p placed.1 ∧ ∀ v ∈ placed.2, p v := by
  have hdefaults := forall_parameters hnothing hstr f
  unfold place at h
  split at h
  · obtain ⟨vs, hvs, rfl⟩ := map_eq_ok.mp h
    have hrest : ∀ n ∈ named.filter fun n => n.1 != "name", p n.2 :=
      fun n hn => hnamed n (List.mem_of_mem_filter hn)
    refine ⟨?_, forall_distribute hargs hrest hdefaults hvs⟩
    rcases hname : named.lookup "name" with _ | v
    · exact hnothing
    · exact of_lookup hnamed hname
  · obtain ⟨vs, hvs, rfl⟩ := map_eq_ok.mp h
    exact ⟨hnothing, forall_distribute hargs hnamed hdefaults hvs⟩

/-- A request is made of the values that found their places. -/
theorem forall_ask {f : Factory} {name : Value} {vs : List Value} {r : Request}
    (htuple : ∀ items : List Value, (∀ v ∈ items, p v) → p (.tuple items)) (hname : p name)
    (hvs : ∀ v ∈ vs, p v) (h : f.ask name vs = .ok r) : ∀ v ∈ r.values, p v := by
  unfold ask at h
  split at h <;> cases h <;> simp_all [Request.values]

theorem forall_askStruct {r : Request} (hnothing : p .nothing) (hargs : ∀ v ∈ args, p v)
    (hnamed : ∀ n ∈ named, p n.2) (h : askStruct args named = .ok r) : ∀ v ∈ r.values, p v := by
  have hfurther : ∀ v ∈ (named.filter fun n => n.1 != "fields").map (·.2), p v := by
    intro v hv
    obtain ⟨n, hn, rfl⟩ := List.mem_map.mp hv
    exact hnamed n (List.mem_of_mem_filter hn)
  unfold askStruct at h
  dsimp only at h
  split at h
  · cases h
    exact List.forall_mem_cons.mpr ⟨hnothing, hfurther⟩
  · next v hv =>
    cases h
    exact List.forall_mem_cons.mpr ⟨of_lookup hnamed hv, hfurther⟩
  · cases h
    exact List.forall_mem_cons.mpr ⟨hargs _ (by simp), hfurther⟩
  · cases h

/-- What holds of the arguments of a call holds of the values that it asks
something of built from, tuples of them included. -/
theorem forall_request {f : Factory} {r : Request} (hnothing : p .nothing)
    (hstr : ∀ s, p (.str s)) (htuple : ∀ items : List Value, (∀ v ∈ items, p v) → p (.tuple items))
    (hargs : ∀ v ∈ args, p v) (hnamed : ∀ n ∈ named, p n.2) (h : f.request args named = .ok r) :
    ∀ v ∈ r.values, p v := by
  have hmerged := forall_mergeNamed hnamed
  unfold request at h
  split at h
  · split at h
    · cases h
      simpa [Request.values] using ⟨hnothing, htuple args hargs⟩
    · cases h
  · exact forall_askStruct hnothing hargs hmerged h
  · obtain ⟨placed, hplaced, hask⟩ := bind_eq_ok.mp h
    obtain ⟨hname, hvs⟩ := forall_place hnothing hstr hargs hmerged hplaced
    exact forall_ask htuple hname hvs hask

end Factory

/-! ## Calls keep descriptors well-formed -/

namespace Descriptor

/-- A name that is accepted is well-formed. -/
theorem nameWellFormed_of_isName {v : Value} {n : Option String} (h : IsName v n) :
    NameWellFormed n :=
  nameWellFormed_of_checkName (checkName_eq_ok.mpr h)

/-- The items of a struct's fields are as good as the fields. -/
theorem onlyHolds_of_fieldItems {p : Descriptor → Prop} {v : Value} {items : List Value}
    (h : v.OnlyHolds p) (hitems : fieldItems v = .ok items) : ∀ w ∈ items, w.OnlyHolds p := by
  unfold fieldItems at hitems
  split at hitems
  · next entries =>
    cases hitems
    rintro w hw
    obtain ⟨⟨k, u⟩, he, rfl⟩ := List.mem_map.mp hw
    have hk : k.OnlyHolds p := fun d hd => h d (.key he hd)
    have hu : u.OnlyHolds p := fun d hd => h d (.entry he hd)
    simp [hk, hu]
  · exact h.of_items? (checkItems_eq_ok.mp hitems)

/-- Fields made of items that hold well-formed descriptors. -/
theorem fieldsWellFormed_of_each {items : List Value} {fields : List (String × Descriptor)}
    (heach : List.Forall₂ IsField items fields) (hnamed : ∀ f ∈ fields, f.1 ≠ "")
    (hitems : ∀ w ∈ items, w.OnlyHolds WellFormed) : FieldsWellFormed fields := by
  induction heach with
  | nil => trivial
  | @cons item f items fields hf _ ih =>
    obtain ⟨hitem, hitems⟩ := List.forall_mem_cons.mp hitems
    obtain ⟨hname, hnamed⟩ := List.forall_mem_cons.mp hnamed
    have hd : (Value.descriptor f.2).OnlyHolds WellFormed := hitem.of_items? hf _ (by simp)
    exact ⟨hname, Value.onlyHolds_descriptor.mp hd, ih hnamed hitems⟩

/-- A kind with its own range is well-formed. -/
theorem wellFormed_ofKind (kind : Kind) : (ofKind kind).WellFormed := by
  rcases kind with _ | _ | _ | kind
  · exact nofun
  · exact nofun
  · exact nofun
  · refine ⟨nofun, Int.le_refl _, ?_, Int.le_refl _⟩
    cases kind <;> decide

/-- The items of the short form hold what was given for it. -/
theorem onlyHolds_of_listedItems {p : Descriptor → Prop} {fields : Value}
    {further : List (String × Value)} {items : List Value} (hfields : fields.OnlyHolds p)
    (hfurther : ∀ n ∈ further, n.2.OnlyHolds p)
    (h : Factory.Request.listedItems fields further = .ok items) : ∀ w ∈ items, w.OnlyHolds p := by
  obtain ⟨listed, hlisted, rfl⟩ := map_eq_ok.mp h
  intro w hw
  rcases List.mem_append.mp hw with hw | hw
  · unfold Factory.Request.leadingItems at hlisted
    split at hlisted
    · cases hlisted
      cases hw
    · exact onlyHolds_of_fieldItems hfields hlisted w hw
  · obtain ⟨n, hn, rfl⟩ := List.mem_map.mp hw
    simp [hfurther n hn]

/-- A request for values that hold well-formed descriptors yields one. -/
theorem wellFormed_of_yields {r : Factory.Request} {d : Descriptor} (h : r.Yields d)
    (hvalues : ∀ v ∈ r.values, v.OnlyHolds WellFormed) : d.WellFormed := by
  have hcomponent : ∀ e, .descriptor e ∈ r.values → e.WellFormed := fun e he =>
    Value.onlyHolds_descriptor.mp (hvalues (.descriptor e) he)
  cases h with
  | whole hname => exact wellFormed_withName (nameWellFormed_of_isName hname) (wellFormed_ofKind _)
  | ranged hname hrange =>
    exact ⟨nameWellFormed_of_isName hname, hrange.least, hrange.ordered, hrange.greatest⟩
  | enum hname htext hlabels hsome hnodup =>
    exact ⟨nameWellFormed_of_isName hname, hsome, hnodup⟩
  | struct hname hitems hfields =>
    have hgiven := onlyHolds_of_fieldItems (hvalues _ (by simp [Factory.Request.values])) hitems
    exact ⟨nameWellFormed_of_isName hname, hfields.nodup,
      fieldsWellFormed_of_each hfields.each hfields.named hgiven⟩
  | listed hitems hfields =>
    obtain ⟨hfirst, hfurther⟩ := List.forall_mem_cons.mp hvalues
    have hgiven := onlyHolds_of_listedItems hfirst
      (fun n hn => hfurther _ (List.mem_map_of_mem hn)) hitems
    exact ⟨nofun, hfields.nodup, fieldsWellFormed_of_each hfields.each hfields.named hgiven⟩
  | @pair _ _ first second hname =>
    have hfirst := hcomponent first (by simp [Factory.Request.values])
    have hsecond := hcomponent second (by simp [Factory.Request.values])
    exact ⟨nameWellFormed_of_isName hname, hfirst, hsecond⟩
  | @vector _ _ _ element hname hlength =>
    have helement := hcomponent element (by simp [Factory.Request.values])
    exact ⟨nameWellFormed_of_isName hname, hlength, helement⟩
  | @maybe _ _ inner hname =>
    have hinner := hcomponent inner (by simp [Factory.Request.values])
    exact ⟨nameWellFormed_of_isName hname, hinner⟩
  | @fn _ _ input output hname =>
    have hinput := hcomponent input (by simp [Factory.Request.values])
    have houtput := hcomponent output (by simp [Factory.Request.values])
    exact ⟨nameWellFormed_of_isName hname, hinput, houtput⟩
  | @named _ _ target hname =>
    have htarget := hcomponent target (by simp [Factory.Request.values])
    exact wellFormed_withName (nameWellFormed_of_isName hname) htarget

end Descriptor

open Descriptor

namespace Factory

variable {f : Factory} {args : List Value} {named : List (String × Value)} {d : Descriptor}

/-- What is built was asked for. -/
theorem exists_request (h : f.call args named = .ok d) :
    ∃ r, f.request args named = .ok r ∧ r.Yields d := by
  rw [call_eq_build] at h
  obtain ⟨r, hr, hbuild⟩ := bind_eq_ok.mp h
  exact ⟨r, hr, Request.build_eq_ok.mp hbuild⟩

/-- A call whose arguments hold well-formed descriptors builds one. -/
theorem wellFormed_of_call (hargs : ∀ v ∈ args, v.OnlyHolds WellFormed)
    (hnamed : ∀ n ∈ named, n.2.OnlyHolds WellFormed) (h : f.call args named = .ok d) :
    d.WellFormed := by
  obtain ⟨r, hr, hyields⟩ := exists_request h
  refine wellFormed_of_yields hyields (forall_request ?_ ?_ ?_ hargs hnamed hr)
  · exact Value.onlyHolds_nothing
  · exact Value.onlyHolds_str
  · exact fun _ => Value.onlyHolds_tuple.mpr

/-- The fields of a struct are the items that were given, in their order. -/
theorem fields_of_call {r : Request} {items : List Value} (hr : f.request args named = .ok r)
    (hitems : r.Lists items) (h : f.call args named = .ok d) :
    ∃ n fields, d = .struct n fields ∧ List.Forall₂ IsField items fields := by
  rw [call_of_request hr, Request.build_eq_ok] at h
  cases hitems with
  | struct hlisted =>
    cases h with
    | struct _ hfound hfields =>
      obtain rfl := Except.ok.inj (hlisted.symm.trans hfound)
      exact ⟨_, _, rfl, hfields.each⟩
  | listed hlisted =>
    cases h with
    | listed hfound hfields =>
      obtain rfl := Except.ok.inj (hlisted.symm.trans hfound)
      exact ⟨_, _, rfl, hfields.each⟩

end Factory

/-! ## Sequences of calls -/

/-- A descriptor that calls of builders come to, one after the other. -/
inductive Built : Descriptor → Prop
  | call {f : Factory} {args : List Value} {named : List (String × Value)} {d : Descriptor}
      (hargs : ∀ v ∈ args, ∀ e, v.Holds e → Built e)
      (hnamed : ∀ n ∈ named, ∀ e, n.2.Holds e → Built e)
      (h : f.call args named = .ok d) : Built d

/-- Every descriptor that is built is well-formed at every depth, and a struct
has the fields that were given for it, in their order. -/
theorem built_wellFormed {d : Descriptor} (hd : Built d) :
    d.WellFormed ∧
      ∀ (f : Factory) (args : List Value) (named : List (String × Value)) (r : Factory.Request)
        (items : List Value), f.call args named = .ok d → f.request args named = .ok r →
          r.Lists items → ∃ n fields, d = .struct n fields ∧ List.Forall₂ IsField items fields := by
  constructor
  · induction hd with
    | call _ _ h ihargs ihnamed => exact Factory.wellFormed_of_call ihargs ihnamed h
  · exact fun f args named r items h hr hitems => Factory.fields_of_call hr hitems h

/-- A struct of a range, with a field by position and one by name. -/
theorem built_wellFormed_levels :
    let level := Descriptor.integer none .int 1 9
    let levels := Descriptor.struct none [("low", level), ("high", level)]
    let given := [.tuple [.str "low", .descriptor level], .tuple [.str "high", .descriptor level]]
    Built levels ∧ levels.WellFormed ∧
      ∃ n fields, levels = .struct n fields ∧ List.Forall₂ IsField given fields := by
  intro level levels given
  have hlevel : Built level := by
    have hcall : Factory.intRange.call [.int 1, .int 9] [] = .ok level := rfl
    refine .call ?_ (by simp) hcall
    rintro v hv e he
    rcases List.mem_pair.mp hv with rfl | rfl <;> cases he
  have hargs : ∀ v ∈ [Value.tuple [.tuple [.str "low", .descriptor level]]], v.OnlyHolds Built := by
    simpa using hlevel
  have hnamed : ∀ n ∈ [("high", Value.descriptor level)], n.2.OnlyHolds Built := by
    simpa using hlevel
  have hcall : Factory.struct.call [.tuple [.tuple [.str "low", .descriptor level]]]
      [("high", .descriptor level)] = .ok levels := rfl
  have hlevels : Built levels := .call hargs hnamed hcall
  obtain ⟨hwellFormed, hfields⟩ := built_wellFormed hlevels
  exact ⟨hlevels, hwellFormed, hfields _ _ _ _ given hcall rfl (.listed rfl)⟩

end Conformance
