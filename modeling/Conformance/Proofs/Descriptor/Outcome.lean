import Conformance.Proofs.Descriptor.Checks
import Conformance.Proofs.Descriptor.Request

/-!
# Conformance.Proofs.Descriptor.Outcome

What a request for a descriptor comes to.

`Yields` says which descriptor is built, and `Slips` which requests end in an
operation without an answer, since something is gone through, or taken apart
into two, that cannot be.  A request comes to the one that it yields
(`build_eq_ok`); if it comes to none it is refused or slips (`build_eq_error`).
-/

namespace Conformance

open Descriptor

namespace Factory.Request

/-! ## What is built -/

/-- The items that stand for the fields of a struct, in their order. -/
inductive Lists : Request → List Value → Prop
  | struct {name fields : Value} {items : List Value} (h : fieldItems fields = .ok items) :
      Lists (.struct name fields) items
  | listed {fields : Value} {further : List (String × Value)} {items : List Value}
      (h : listedItems fields further = .ok items) : Lists (.listed fields further) items

/-- The descriptor that a request asks for. -/
inductive Yields : Request → Descriptor → Prop
  | whole {name : Value} {n : Option String} {kind : Kind} (hname : IsName name n) :
      Yields (.primitive name (.str kind.text) .nothing) ((ofKind kind).withName n)
  | ranged {name range : Value} {n : Option String} {kind : IntegerKind} {low high : Int}
      (hname : IsName name n) (hrange : IsRange kind range low high) :
      Yields (.primitive name (.str kind.text) range) (.integer n kind low high)
  | enum {name labels : Value} {n : Option String} {texts : List String} (hname : IsName name n)
      (htext : ∀ s, labels ≠ .str s) (hlabels : labels.items? = some (texts.map .str))
      (hsome : texts ≠ []) (hnodup : texts.Nodup) :
      Yields (.enum name labels) (.enum n texts)
  | struct {name fields : Value} {n : Option String} {items : List Value}
      {found : List (String × Descriptor)} (hname : IsName name n)
      (hitems : fieldItems fields = .ok items) (hfields : AreFields items found) :
      Yields (.struct name fields) (.struct n found)
  | listed {fields : Value} {further : List (String × Value)} {items : List Value}
      {found : List (String × Descriptor)} (hitems : listedItems fields further = .ok items)
      (hfields : AreFields items found) :
      Yields (.listed fields further) (.struct none found)
  | pair {name : Value} {n : Option String} {first second : Descriptor} (hname : IsName name n) :
      Yields (.pair name (.descriptor first) (.descriptor second)) (.pair n first second)
  | vector {name : Value} {n : Option String} {length : Nat} {element : Descriptor}
      (hname : IsName name n) (hlength : 0 < length) :
      Yields (.vector name (.int length) (.descriptor element)) (.vector n length element)
  | maybe {name : Value} {n : Option String} {inner : Descriptor} (hname : IsName name n) :
      Yields (.maybe name (.descriptor inner)) (.maybe n inner)
  | fn {name : Value} {n : Option String} {input output : Descriptor} (hname : IsName name n) :
      Yields (.fn name (.descriptor input) (.descriptor output)) (.fn n input output)
  | named {name : Value} {n : Option String} {d : Descriptor} (hname : IsName name n) :
      Yields (.named (.descriptor d) name) (d.withName n)

/-- Requests that end in an operation without an answer. -/
inductive Slips : Request → Intrinsic → Prop
  /-- a range of an integer kind that cannot be gone through -/
  | range {name range : Value} {n : Option String} {kind : IntegerKind} (hname : IsName name n)
      (hgiven : range ≠ .nothing) (hitems : range.items? = none) :
      Slips (.primitive name (.str kind.text) range) .type
  /-- a range of an integer kind that has not two items -/
  | bounds {name range : Value} {n : Option String} {kind : IntegerKind} {items : List Value}
      (hname : IsName name n) (hitems : range.items? = some items) (hlength : items.length ≠ 2) :
      Slips (.primitive name (.str kind.text) range) .value
  /-- labels that cannot be gone through -/
  | labels {name labels : Value} {n : Option String} (hname : IsName name n)
      (hitems : labels.items? = none) : Slips (.enum name labels) .type
  /-- fields that cannot be gone through -/
  | fields {name fields : Value} {n : Option String} (hname : IsName name n)
      (hitems : fields.items? = none) : Slips (.struct name fields) .type
  | listed {fields : Value} {further : List (String × Value)} (hgiven : fields ≠ .nothing)
      (hitems : fields.items? = none) : Slips (.listed fields further) .type

/-! ## Primitives -/

/-- An integer with a range of its own is built if the range is accepted. -/
theorem buildPrimitive_of_integer {name range : Value} {n : Option String} {kind : IntegerKind}
    (hname : IsName name n) (hgiven : range ≠ .nothing) :
    buildPrimitive name (.str kind.text) range =
      checkRange kind range >>= fun bounds => .ok (.integer n kind bounds.1 bounds.2) := by
  have hkind : checkKind (.str kind.text) = .ok (.integer kind) := checkKind_eq_ok.mpr rfl
  rw [buildPrimitive, checkName_eq_ok.mpr hname, hkind]
  cases range with
  | nothing => exact absurd rfl hgiven
  | _ => rfl

/-- What is built for a primitive is what it yields. -/
theorem buildPrimitive_eq_ok {name kind range : Value} {d : Descriptor} :
    buildPrimitive name kind range = .ok d ↔ Yields (.primitive name kind range) d := by
  constructor
  · intro h
    obtain ⟨n, hn, hrest⟩ := bind_eq_ok.mp h
    obtain ⟨k, hk, hbuilt⟩ := bind_eq_ok.mp hrest
    have hname : IsName name n := checkName_eq_ok.mp hn
    obtain rfl := checkKind_eq_ok.mp hk
    split at hbuilt
    · cases hbuilt
      exact .whole hname
    · obtain ⟨⟨low, high⟩, hrange, hbuilt⟩ := bind_eq_ok.mp hbuilt
      cases hbuilt
      exact .ranged hname (checkRange_eq_ok.mp hrange)
    · cases hbuilt
      exact .whole hname
    · cases hbuilt
  · rintro (⟨hname⟩ | ⟨hname, hrange⟩)
    · next n k =>
      refine bind_eq_ok.mpr ⟨n, checkName_eq_ok.mpr hname, ?_⟩
      refine bind_eq_ok.mpr ⟨k, checkKind_eq_ok.mpr rfl, ?_⟩
      cases k <;> rfl
    · have hgiven : range ≠ .nothing := by
        rintro rfl
        simpa [Value.items?] using hrange.bounds
      rw [buildPrimitive_of_integer hname hgiven, checkRange_eq_ok.mpr hrange]
      rfl

/-- What a primitive is not built for is refused, or its range slips. -/
theorem buildPrimitive_eq_error {name kind range : Value} {error : Error}
    (h : buildPrimitive name kind range = .error error) :
    (∃ message, error = .descriptor message) ∨
      ∃ cause, error = .intrinsic cause ∧ Slips (.primitive name kind range) cause := by
  rcases bind_eq_error.mp h with h | ⟨n, hn, hrest⟩
  · exact .inl (refuses_checkName name error h)
  rcases bind_eq_error.mp hrest with h | ⟨k, hk, hbuilt⟩
  · exact .inl (refuses_checkKind kind error h)
  have hname : IsName name n := checkName_eq_ok.mp hn
  obtain rfl := checkKind_eq_ok.mp hk
  split at hbuilt
  · cases hbuilt
  · next k hgiven =>
    rcases bind_eq_error.mp hbuilt with herror | ⟨_, _, hok⟩
    · rcases checkRange_eq_error herror with
        hrefused | ⟨rfl, hitems⟩ | ⟨rfl, items, hitems, hlength⟩
      · exact .inl hrefused
      · exact .inr ⟨_, rfl, .range hname hgiven hitems⟩
      · exact .inr ⟨_, rfl, .bounds hname hitems hlength⟩
    · cases hok
  · cases hbuilt
  · exact .inl (refuses_refuse _ error hbuilt)

/-! ## Enums and structs -/

/-- The checks of an enum after its name, in their order. -/
theorem buildEnum_of_name {name labels : Value} {n : Option String} (hname : IsName name n)
    (htext : ∀ s, labels ≠ .str s) :
    buildEnum name labels = (do
      let items ← checkItems labels
      if items.isEmpty then refuse .noLabels
      else
        let texts ← checkLabels items
        if texts.Nodup then .ok (.enum n texts) else refuse (.repeatedLabels texts)) := by
  rw [buildEnum, checkName_eq_ok.mpr hname]
  cases labels with
  | str s => exact absurd rfl (htext s)
  | _ => rfl

/-- What is built for an enum is what it yields. -/
theorem buildEnum_eq_ok {name labels : Value} {d : Descriptor} :
    buildEnum name labels = .ok d ↔ Yields (.enum name labels) d := by
  constructor
  · intro h
    obtain ⟨n, hn, hbuilt⟩ := bind_eq_ok.mp h
    have hname : IsName name n := checkName_eq_ok.mp hn
    split at hbuilt
    · cases hbuilt
    · next htext =>
      obtain ⟨items, hitems, hbuilt⟩ := bind_eq_ok.mp hbuilt
      split at hbuilt
      · cases hbuilt
      · next hsome =>
        obtain ⟨texts, htexts, hbuilt⟩ := bind_eq_ok.mp hbuilt
        split at hbuilt
        · next hnodup =>
          cases hbuilt
          obtain rfl := checkLabels_eq_ok.mp htexts
          exact .enum hname htext (checkItems_eq_ok.mp hitems) (by simpa using hsome) hnodup
        · cases hbuilt
  · intro h
    cases h with
    | enum hname htext hlabels hsome hnodup =>
      rw [buildEnum_of_name hname htext]
      refine bind_eq_ok.mpr ⟨_, checkItems_eq_ok.mpr hlabels, ?_⟩
      rw [if_neg (by simpa using hsome)]
      refine bind_eq_ok.mpr ⟨_, checkLabels_eq_ok.mpr rfl, ?_⟩
      rw [if_pos hnodup]

/-- What an enum is not built for is refused, or its labels slip. -/
theorem buildEnum_eq_error {name labels : Value} {error : Error}
    (h : buildEnum name labels = .error error) :
    (∃ message, error = .descriptor message) ∨
      ∃ cause, error = .intrinsic cause ∧ Slips (.enum name labels) cause := by
  rcases bind_eq_error.mp h with h | ⟨n, hn, hbuilt⟩
  · exact .inl (refuses_checkName name error h)
  have hname : IsName name n := checkName_eq_ok.mp hn
  split at hbuilt
  · exact .inl (refuses_refuse _ error hbuilt)
  · rcases bind_eq_error.mp hbuilt with herror | ⟨items, hitems, hbuilt⟩
    · obtain ⟨rfl, hnone⟩ := checkItems_eq_error.mp herror
      exact .inr ⟨_, rfl, .labels hname hnone⟩
    · split at hbuilt
      · exact .inl (refuses_refuse _ error hbuilt)
      · rcases bind_eq_error.mp hbuilt with herror | ⟨texts, -, hbuilt⟩
        · exact .inl (refuses_checkLabels items error herror)
        · split at hbuilt
          · cases hbuilt
          · exact .inl (refuses_refuse _ error hbuilt)

/-- A struct is built exactly if its name is one and its items are fields. -/
theorem buildStruct_eq_ok {name fields : Value} {d : Descriptor} :
    buildStruct name fields = .ok d ↔ ∃ n items found, IsName name n ∧
      fieldItems fields = .ok items ∧ AreFields items found ∧ d = .struct n found := by
  simp only [buildStruct, bind_eq_ok, checkName_eq_ok, checkFields_nil_eq_ok, Except.ok.injEq]
  constructor
  · rintro ⟨n, hname, items, hitems, found, hfields, rfl⟩
    exact ⟨n, items, found, hname, hitems, hfields, rfl⟩
  · rintro ⟨n, items, found, hname, hitems, hfields, rfl⟩
    exact ⟨n, hname, items, hitems, found, hfields, rfl⟩

/-- What a struct is not built for is refused, or its fields slip. -/
theorem buildStruct_eq_error {name fields : Value} {error : Error}
    (h : buildStruct name fields = .error error) :
    (∃ message, error = .descriptor message) ∨
      ∃ cause, error = .intrinsic cause ∧ Slips (.struct name fields) cause := by
  rcases bind_eq_error.mp h with h | ⟨n, hn, hrest⟩
  · exact .inl (refuses_checkName name error h)
  rcases bind_eq_error.mp hrest with h | ⟨items, hitems, hbuilt⟩
  · obtain ⟨rfl, hnone⟩ := fieldItems_eq_error.mp h
    exact .inr ⟨_, rfl, .fields (checkName_eq_ok.mp hn) hnone⟩
  · exact .inl (((refuses_checkFields [] items).bind fun _ _ => refuses_ok _) error hbuilt)

/-- The items of the short form can only fail to be gone through. -/
theorem listedItems_eq_error {fields : Value} {further : List (String × Value)} {error : Error} :
    listedItems fields further = .error error ↔
      error = .intrinsic .type ∧ fields ≠ .nothing ∧ fields.items? = none := by
  rw [listedItems, map_eq_error]
  cases fields with
  | nothing => simp [leadingItems]
  | _ => simp [leadingItems, fieldItems_eq_error]

/-- The items of the short form are gone through before the struct is built. -/
theorem buildListed_eq_error {fields : Value} {further : List (String × Value)} {error : Error}
    (h : build (.listed fields further) = .error error) :
    (∃ message, error = .descriptor message) ∨
      ∃ cause, error = .intrinsic cause ∧ Slips (.listed fields further) cause := by
  rcases bind_eq_error.mp h with h | ⟨items, -, hbuilt⟩
  · obtain ⟨rfl, hgiven, hnone⟩ := listedItems_eq_error.mp h
    exact .inr ⟨_, rfl, .listed hgiven hnone⟩
  · rcases buildStruct_eq_error hbuilt with hrefused | ⟨cause, -, hslips⟩
    · exact .inl hrefused
    · cases hslips with
      | fields hname hnone => simp [Value.items?] at hnone

/-! ## The other composites -/

/-- What is built for a pair is what it yields. -/
theorem buildPair_eq_ok {name first second : Value} {d : Descriptor} :
    buildPair name first second = .ok d ↔ Yields (.pair name first second) d := by
  simp only [buildPair, bind_eq_ok, checkName_eq_ok, checkComponent_eq_ok, Except.ok.injEq]
  constructor
  · rintro ⟨n, hname, a, rfl, b, rfl, rfl⟩
    exact .pair hname
  · intro h
    cases h with
    | pair hname => exact ⟨_, hname, _, rfl, _, rfl, rfl⟩

/-- What is built for a vector is what it yields. -/
theorem buildVector_eq_ok {name length element : Value} {d : Descriptor} :
    buildVector name length element = .ok d ↔ Yields (.vector name length element) d := by
  simp only [buildVector, bind_eq_ok, checkName_eq_ok, checkLength_eq_ok, checkComponent_eq_ok,
    Except.ok.injEq]
  constructor
  · rintro ⟨n, hname, m, ⟨hm, rfl⟩, e, rfl, rfl⟩
    exact .vector hname hm
  · intro h
    cases h with
    | vector hname hm => exact ⟨_, hname, _, ⟨hm, rfl⟩, _, rfl, rfl⟩

/-- What is built for a maybe is what it yields. -/
theorem buildMaybe_eq_ok {name inner : Value} {d : Descriptor} :
    buildMaybe name inner = .ok d ↔ Yields (.maybe name inner) d := by
  simp only [buildMaybe, bind_eq_ok, checkName_eq_ok, checkComponent_eq_ok, Except.ok.injEq]
  constructor
  · rintro ⟨n, hname, e, rfl, rfl⟩
    exact .maybe hname
  · intro h
    cases h with
    | maybe hname => exact ⟨_, hname, _, rfl, rfl⟩

/-- What is built for a function is what it yields. -/
theorem buildFn_eq_ok {name input output : Value} {d : Descriptor} :
    buildFn name input output = .ok d ↔ Yields (.fn name input output) d := by
  simp only [buildFn, bind_eq_ok, checkName_eq_ok, checkComponent_eq_ok, Except.ok.injEq]
  constructor
  · rintro ⟨n, hname, a, rfl, b, rfl, rfl⟩
    exact .fn hname
  · intro h
    cases h with
    | fn hname => exact ⟨_, hname, _, rfl, _, rfl, rfl⟩

/-- A name is given to a descriptor, and only to one. -/
theorem buildNamed_eq_ok {target name : Value} {d : Descriptor} :
    buildNamed target name = .ok d ↔ Yields (.named target name) d := by
  simp only [buildNamed, bind_eq_ok, checkName_eq_ok, checkComponent_eq_ok, Except.ok.injEq]
  constructor
  · rintro ⟨e, rfl, n, hname, rfl⟩
    exact .named hname
  · intro h
    cases h with
    | named hname => exact ⟨_, rfl, _, hname, rfl⟩

/-! ## Outcomes of requests -/

/-- A request is answered by the descriptor that it yields, and by no other. -/
theorem build_eq_ok {r : Request} {d : Descriptor} : r.build = .ok d ↔ Yields r d := by
  cases r with
  | any =>
    constructor
    · nofun
    · nofun
  | primitive name kind range => exact buildPrimitive_eq_ok
  | enum name labels => exact buildEnum_eq_ok
  | struct name fields =>
    rw [build, buildStruct_eq_ok]
    constructor
    · rintro ⟨n, items, found, hname, hitems, hfields, rfl⟩
      exact .struct hname hitems hfields
    · intro h
      cases h with
      | struct hname hitems hfields => exact ⟨_, _, _, hname, hitems, hfields, rfl⟩
  | listed fields further =>
    have htuple : ∀ items, fieldItems (.tuple items) = .ok items := fun _ => rfl
    simp only [build, bind_eq_ok, buildStruct_eq_ok, htuple, Except.ok.injEq]
    constructor
    · rintro ⟨items, hitems, n, others, found, hname, rfl, hfields, rfl⟩
      cases hname
      exact .listed hitems hfields
    · intro h
      cases h with
      | listed hitems hfields => exact ⟨_, hitems, _, _, _, .absent, rfl, hfields, rfl⟩
  | pair name first second => exact buildPair_eq_ok
  | vector name length element => exact buildVector_eq_ok
  | maybe name inner => exact buildMaybe_eq_ok
  | fn name input output => exact buildFn_eq_ok
  | named target name => exact buildNamed_eq_ok

/-- What is not answered is refused, or slips. -/
theorem build_eq_error {r : Request} {error : Error} (h : r.build = .error error) :
    (∃ message, error = .descriptor message) ∨
      ∃ cause, error = .intrinsic cause ∧ Slips r cause := by
  have hname := refuses_checkName
  have hcomponent := refuses_checkComponent
  cases r with
  | any => exact .inl (refuses_refuse .abstract error h)
  | primitive name kind range => exact buildPrimitive_eq_error h
  | enum name labels => exact buildEnum_eq_error h
  | struct name fields => exact buildStruct_eq_error h
  | listed fields further => exact buildListed_eq_error h
  | pair name first second =>
    refine .inl (Refuses.bind (hname name) (fun n _ => ?_) error h)
    refine (hcomponent _ first).bind fun a _ => ?_
    exact (hcomponent _ second).bind fun b _ => refuses_ok _
  | vector name length element =>
    refine .inl (Refuses.bind (hname name) (fun n _ => ?_) error h)
    refine (refuses_checkLength length).bind fun m _ => ?_
    exact (hcomponent _ element).bind fun e _ => refuses_ok _
  | maybe name inner =>
    refine .inl (Refuses.bind (hname name) (fun n _ => ?_) error h)
    exact (hcomponent _ inner).bind fun e _ => refuses_ok _
  | fn name input output =>
    refine .inl (Refuses.bind (hname name) (fun n _ => ?_) error h)
    refine (hcomponent _ input).bind fun a _ => ?_
    exact (hcomponent _ output).bind fun b _ => refuses_ok _
  | named target name =>
    refine .inl (Refuses.bind (hcomponent _ target) (fun e _ => ?_) error h)
    exact (hname name).bind fun n _ => refuses_ok _

/-- A request that slips ends in that operation. -/
theorem build_of_slips {r : Request} {cause : Intrinsic} (h : Slips r cause) :
    r.build = .error (.intrinsic cause) := by
  cases h with
  | range hname hgiven hitems =>
    rw [build, buildPrimitive_of_integer hname hgiven, checkRange_of_items?_eq_none hitems]
    rfl
  | bounds hname hitems hlength =>
    rw [build, buildPrimitive_of_integer hname, checkRange_of_length_ne hitems hlength]
    · rfl
    · rintro rfl
      simp [Value.items?] at hitems
  | @labels name labels n hname hnone =>
    have htext : ∀ s, labels ≠ .str s := by
      rintro s rfl
      simp [Value.items?] at hnone
    rw [build, buildEnum_of_name hname htext, checkItems_eq_error.mpr ⟨rfl, hnone⟩]
    rfl
  | fields hname hnone =>
    refine bind_eq_error.mpr (.inr ⟨_, checkName_eq_ok.mpr hname, ?_⟩)
    exact bind_eq_error.mpr (.inl (fieldItems_eq_error.mpr ⟨rfl, hnone⟩))
  | listed hgiven hnone =>
    exact bind_eq_error.mpr (.inl (listedItems_eq_error.mpr ⟨rfl, hgiven, hnone⟩))

end Factory.Request

namespace Factory

variable {f : Factory} {args : List Value} {named : List (String × Value)} {r : Request}

/-- A call whose arguments find their places does what is requested. -/
theorem call_of_request (h : f.request args named = .ok r) : f.call args named = r.build := by
  rw [call_eq_build, h]
  rfl

/-! ## Outcomes of calls -/

/-- Only constructors that go through an argument slip, and the short form of a
struct, which goes through its fields before the constructor does. -/
theorem mem_of_slips {cause : Intrinsic} (h : f.request args named = .ok r)
    (hslips : r.Slips cause) : f ∈ [primitiveType, enumType, structType, struct] := by
  unfold request at h
  split at h
  · split at h
    · cases h
      cases hslips with
      | labels hname hitems => simp [Value.items?] at hitems
    · cases h
  · simp
  · obtain ⟨placed, -, hask⟩ := bind_eq_ok.mp h
    unfold ask at hask
    split at hask <;> cases hask <;> cases hslips <;> grind [Value.items?]

/-- A call with the right arguments comes to a descriptor or is refused, unless
it slips; and it slips exactly where an operation has no answer. -/
theorem call_answers (h : f.request args named = .ok r) :
    (((∃ d, f.call args named = .ok d) ∨
        ∃ message, f.call args named = .error (.descriptor message)) ↔
      ∀ cause, ¬ r.Slips cause) ∧
    ∀ cause, f.call args named = .error (.intrinsic cause) ↔ r.Slips cause := by
  have hslips : ∀ cause, f.call args named = .error (.intrinsic cause) ↔ r.Slips cause := by
    intro cause
    rw [call_of_request h]
    constructor
    · intro herror
      rcases Request.build_eq_error herror with ⟨message, hmessage⟩ | ⟨other, hother, hs⟩
      · cases hmessage
      · cases hother
        exact hs
    · exact Request.build_of_slips
  refine ⟨⟨?_, fun hnone => ?_⟩, hslips⟩
  · rintro (⟨d, hd⟩ | ⟨message, hmessage⟩) cause hs
    · rw [(hslips cause).mpr hs] at hd
      cases hd
    · rw [(hslips cause).mpr hs] at hmessage
      cases hmessage
  · rcases hcall : f.call args named with error | d
    · right
      rw [call_of_request h] at hcall
      rcases Request.build_eq_error hcall with ⟨message, rfl⟩ | ⟨cause, -, hs⟩
      · exact ⟨message, rfl⟩
      · exact absurd hs (hnone cause)
    · exact .inl ⟨d, rfl⟩

/-- A range that is a single number slips. -/
theorem call_answers_loneBound :
    let args := [.str "Int", .int 5]
    primitiveType.request args [] = .ok (.primitive .nothing (.str "Int") (.int 5)) ∧
      primitiveType.call args [] = .error (.intrinsic .type) := by
  intro args
  have hrequest : primitiveType.request args [] =
      .ok (.primitive .nothing (.str IntegerKind.int.text) (.int 5)) := rfl
  have hslips : Request.Slips (.primitive .nothing (.str IntegerKind.int.text) (.int 5)) .type :=
    .range .absent nofun rfl
  exact ⟨hrequest, ((call_answers hrequest).2 .type).mpr hslips⟩

/-- Not every call with the right arguments is answered or refused. -/
theorem not_refused_loneBound :
    ¬ ∀ (f : Factory) (args : List Value) (named : List (String × Value)) (r : Request),
      f.request args named = .ok r →
        (∃ d, f.call args named = .ok d) ∨
          ∃ message, f.call args named = .error (.descriptor message) := by
  intro h
  have hcall : primitiveType.call [.str "Int", .int 5] [] = .error (.intrinsic .type) := rfl
  rcases h primitiveType [.str "Int", .int 5] [] _ rfl with ⟨d, hd⟩ | ⟨message, hmessage⟩
  · rw [hcall] at hd
    cases hd
  · rw [hcall] at hmessage
    cases hmessage

end Factory

end Conformance
