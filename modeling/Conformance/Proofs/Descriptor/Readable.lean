import Conformance.Proofs.Descriptor.Unnamed
import Conformance.Proofs.Text.Reading

/-!
# Conformance.Proofs.Descriptor.Readable

Shapes are unambiguous: a descriptor without display names can be read back
from its text, provided that its labels hold no quotation mark and the names
of its fields neither a colon nor a closing brace (`Legible`).

A descriptor is read in two places (`Readable`):

* as an operand, where an arrow may follow and a function has to stand in
  parentheses (`operand`);
* as a part of its own, up to the mark that closes it.

An operand begins with a keyword, which is empty for structs, pairs and
functions, and goes on with its details (`toList_operand`).  The keyword is read
first, so that only descriptors of one kind are left to tell apart.
-/

namespace Conformance

/-- No two kinds have one text. -/
theorem IntegerKind.text_injective : Function.Injective IntegerKind.text := by
  intro kind kind'
  cases kind <;> cases kind' <;> decide

namespace Descriptor

/-! ## Legible descriptors -/

/-- A name without a colon, which stands behind it, and without a brace, which
stands behind the last field.  A name of letters, digits and underscores is
one. -/
def LegibleName (name : String) : Prop := ':' ∉ name.toList ∧ '\x7d' ∉ name.toList

/-- A name of letters, digits and underscores is legible. -/
theorem legibleName_of_word {name : String}
    (h : ∀ c ∈ name.toList, c.isAlphanum = true ∨ c = '_') : LegibleName name := by
  constructor
  · intro hcolon
    simpa using h ':' hcolon
  · intro hbrace
    simpa using h '\x7d' hbrace

mutual
/-- No display name at any depth, no quotation mark in a label, and fields
whose names are legible. -/
def Legible : Descriptor → Prop
  | boolean n | string n | number n | integer n .. => n = none
  | enum n labels => n = none ∧ ∀ label ∈ labels, '"' ∉ label.toList
  | struct n fields => n = none ∧ FieldsLegible fields
  | pair n first second => n = none ∧ Legible first ∧ Legible second
  | vector n _ element => n = none ∧ Legible element
  | maybe n inner => n = none ∧ Legible inner
  | fn n input output => n = none ∧ Legible input ∧ Legible output
/-- Fields with legible names and legible descriptors. -/
def FieldsLegible : List (String × Descriptor) → Prop
  | [] => True
  | (n, d) :: fields => LegibleName n ∧ Legible d ∧ FieldsLegible fields
end

/-- A field with a legible name and a legible descriptor. -/
def FieldLegible (f : String × Descriptor) : Prop := LegibleName f.1 ∧ f.2.Legible

/-- Fields are legible if each one is. -/
theorem fieldsLegible_iff {fields : List (String × Descriptor)} :
    FieldsLegible fields ↔ ∀ f ∈ fields, FieldLegible f := by
  induction fields with
  | nil => simp [FieldsLegible]
  | cons f fields ih => simp [FieldsLegible, FieldLegible, ih, and_assoc]

/-- What is legible has no display name. -/
theorem Legible.name_eq {d : Descriptor} (h : d.Legible) : d.name = none := by
  cases d with
  | boolean | string | number | integer => exact h
  | enum | struct | pair | vector | maybe | fn => exact h.1

/-- What is legible is written as its structure. -/
theorem Legible.render_eq {d : Descriptor} (h : d.Legible) : d.render = d.shape := by
  rw [render, h.name_eq, Option.getD_none]

mutual
/-- A legible descriptor is its own unnamed form. -/
theorem unnamed_of_legible : (d : Descriptor) → d.Legible → d.unnamed = d
  | boolean _, h | string _, h | number _, h | integer .., h => by
      simp_all [Legible, unnamed]
  | enum .., h => by simp_all [Legible, unnamed]
  | struct _ fields, h => by
      rw [unnamed, unnamedFields_of_legible fields h.2, h.1]
  | pair _ first second, h => by
      rw [unnamed, unnamed_of_legible first h.2.1, unnamed_of_legible second h.2.2, h.1]
  | vector _ _ element, h => by rw [unnamed, unnamed_of_legible element h.2, h.1]
  | maybe _ inner, h => by rw [unnamed, unnamed_of_legible inner h.2, h.1]
  | fn _ input output, h => by
      rw [unnamed, unnamed_of_legible input h.2.1, unnamed_of_legible output h.2.2, h.1]

/-- There is no display name to be left out of legible fields. -/
theorem unnamedFields_of_legible : (fields : List (String × Descriptor)) →
    FieldsLegible fields → unnamedFields fields = fields
  | [], _ => rfl
  | (_, d) :: fields, h => by
      rw [unnamedFields, unnamed_of_legible d h.2.1, unnamedFields_of_legible fields h.2.2]
end

/-! ## Operands -/

/-- The text of a descriptor to the left of an arrow. -/
def operand (d : Descriptor) : String :=
  if isBareFn d then "(" ++ render d ++ ")" else render d

/-- A label in quotation marks. -/
def quoted (label : String) : String := "\"" ++ label ++ "\""

/-- The text of a field. -/
def fieldText (f : String × Descriptor) : String := f.1 ++ ": " ++ render f.2

theorem shape_enum (n : Option String) (labels : List String) :
    shape (enum n labels) = "Enum(" ++ commaSeparated (labels.map quoted) ++ ")" := rfl

/-- A struct is a comma list of its fields, in braces. -/
theorem shape_struct (n : Option String) (fields : List (String × Descriptor)) :
    shape (struct n fields) = "\x7b" ++ commaSeparated (fields.map fieldText) ++ "\x7d" := by
  rw [shape, fieldShapes_eq_map]
  rfl

/-- The word at the front of an operand. -/
def keyword : Descriptor → String
  | boolean _ => Kind.boolean.text
  | string _ => Kind.string.text
  | number _ => Kind.number.text
  | integer _ kind _ _ => kind.text
  | enum .. => "Enum"
  | struct .. | pair .. | fn .. => ""
  | vector .. => "Vector"
  | maybe .. => "Maybe"

/-- What comes behind the keyword of an operand. -/
def details : Descriptor → String
  | boolean _ | string _ | number _ => ""
  | integer _ kind low high =>
    if low = kind.low ∧ high = kind.high then ""
    else "[" ++ toString low ++ ", " ++ toString high ++ "]"
  | enum _ labels => "(" ++ commaSeparated (labels.map quoted) ++ ")"
  | struct _ fields => "\x7b" ++ commaSeparated (fields.map fieldText) ++ "\x7d"
  | pair _ first second => "(" ++ render first ++ ", " ++ render second ++ ")"
  | vector _ length element => "[" ++ toString length ++ ", " ++ render element ++ "]"
  | maybe _ inner => "<" ++ render inner ++ ">"
  | fn n input output => "(" ++ render (fn n input output) ++ ")"

/-- Only a function is put in brackets. -/
theorem operand_of_not_bareFn {d : Descriptor} (h : isBareFn d = false) : operand d = render d := by
  rw [operand, h]
  rfl

/-- An operand is a keyword and what follows it. -/
theorem toList_operand {d : Descriptor} (h : d.Legible) :
    (operand d).toList = (keyword d).toList ++ (details d).toList := by
  cases d with
  | fn =>
    obtain ⟨rfl, -⟩ := h
    simp [operand, isBareFn, keyword, details]
  | integer _ kind low high =>
    rw [operand_of_not_bareFn rfl, h.render_eq, shape, integerShape, details]
    by_cases hfull : low = kind.low ∧ high = kind.high <;> simp [hfull, keyword]
  | enum n labels =>
    rw [operand_of_not_bareFn rfl, h.render_eq, shape_enum]
    simp [keyword, details]
  | struct n fields =>
    rw [operand_of_not_bareFn rfl, h.render_eq, shape_struct]
    simp [keyword, details]
  | _ =>
    rw [operand_of_not_bareFn rfl, h.render_eq]
    simp [shape, render, keyword, details, Kind.text]

/-! ## Reading descriptors -/

/-- The marks that stand behind a part of a shape. -/
def closingMarks : List Char := [',', ')', ']', '>', '\x7d']

/-- The marks that stand behind an operand: an arrow may follow. -/
def operandMarks : List Char := ' ' :: closingMarks

@[simp] theorem mem_closingMarks {c : Char} :
    c ∈ closingMarks ↔ c = ',' ∨ c = ')' ∨ c = ']' ∨ c = '>' ∨ c = '\x7d' := by
  simp [closingMarks]

@[simp] theorem mem_operandMarks {c : Char} : c ∈ operandMarks ↔ c = ' ' ∨ c ∈ closingMarks := by
  simp [operandMarks]

/-- A descriptor is read in one way wherever it stands. -/
structure Readable (d : Descriptor) : Prop where
  asOperand : Reads Legible operand operandMarks d
  asWhole : Reads Legible render closingMarks d

/-- What closes something ends an operand, too. -/
theorem operandMarks_of_closingMarks {rest : List Char} (h : StopsAt closingMarks rest) :
    StopsAt operandMarks rest :=
  h.mono (List.subset_cons_self _ _)

/-- A keyword consists of letters and digits. -/
theorem isAlphanum_keyword (d : Descriptor) : ∀ c ∈ (keyword d).toList, c.isAlphanum = true := by
  cases d with
  | integer _ kind => cases kind <;> simp [keyword, IntegerKind.text, Char.isAlphanum]
  | _ => simp [keyword, Kind.text]

/-- Details begin with a mark, and where there are none, what follows does. -/
theorem stopsAt_details (d : Descriptor) {rest : List Char} (h : StopsAt operandMarks rest) :
    StopsAt (['[', '(', '<', '\x7b'] ++ operandMarks) ((details d).toList ++ rest) := by
  have hrest : StopsAt (['[', '(', '<', '\x7b'] ++ operandMarks) rest :=
    fun c hc => List.mem_append_right _ (h c hc)
  cases d with
  | boolean | string | number => simpa [details] using hrest
  | integer _ kind low high =>
    by_cases hfull : low = kind.low ∧ high = kind.high
    · simpa [details, hfull] using hrest
    · simp [details, hfull]
  | _ => simp [details]

/-- The keyword of an operand is read first. -/
theorem details_of_operand {d e : Descriptor} (hd : d.Legible) (he : e.Legible)
    {rest rest' : List Char} (hrest : StopsAt operandMarks rest)
    (hrest' : StopsAt operandMarks rest')
    (h : (operand d).toList ++ rest = (operand e).toList ++ rest') :
    keyword d = keyword e ∧ (details d).toList ++ rest = (details e).toList ++ rest' := by
  rw [toList_operand hd, toList_operand he, List.append_assoc, List.append_assoc] at h
  have hmarks : ∀ c ∈ ['[', '(', '<', '\x7b'] ++ operandMarks, c.isAlphanum = false := by
    simp
  obtain ⟨hkeyword, hdetails⟩ := append_inj_of_stopsAt hmarks (isAlphanum_keyword d)
    (isAlphanum_keyword e) (stopsAt_details d hrest) (stopsAt_details e hrest') h
  exact ⟨String.toList_injective hkeyword, hdetails⟩

/-- A function is its input as an operand, an arrow and its output. -/
theorem toList_render_fn (input output : Descriptor) (rest : List Char) :
    (render (fn none input output)).toList ++ rest =
      (operand input).toList ++ ' ' :: '-' :: '>' :: ' ' :: ((render output).toList ++ rest) := by
  change (operand input ++ " -> " ++ render output).toList ++ rest = _
  simp

/-- What is no function is read as a whole once it is read as an operand. -/
theorem Readable.of_operand {d : Descriptor} (hfn : isBareFn d = false)
    (h : Reads Legible operand operandMarks d) : Readable d := by
  refine ⟨h, fun e rest rest' he hrest hrest' heq => ?_⟩
  rw [← operand_of_not_bareFn hfn] at heq
  by_cases hfn' : isBareFn e = false
  · rw [← operand_of_not_bareFn hfn'] at heq
    exact h e rest rest' he (operandMarks_of_closingMarks hrest)
      (operandMarks_of_closingMarks hrest') heq
  · cases e with
    | fn n input output =>
      obtain ⟨rfl, hinput, -⟩ := he
      rw [toList_render_fn] at heq
      -- an arrow would stand behind `d`, and an arrow closes nothing
      obtain ⟨-, rfl⟩ := h input rest _ hinput (operandMarks_of_closingMarks hrest) (by simp) heq
      simp at hrest
    | _ => simp [isBareFn] at hfn'

/-! ## One kind after the other -/

/-- The keywords that are no integer kind. -/
def words : List String := ["Boolean", "String", "Number", "Enum", "", "Vector", "Maybe"]

/-- No other keyword is that of an integer kind. -/
theorem ne_text_of_mem_words {word : String} (h : word ∈ words) (kind : IntegerKind) :
    word ≠ kind.text := by
  rintro rfl
  cases kind <;> simp [words, IntegerKind.text] at h

/-- Of the primitives that are no integers the keyword says all. -/
theorem readable_word {d : Descriptor}
    (h : d = boolean none ∨ d = string none ∨ d = number none) : Readable d := by
  have hd : d.Legible := by rcases h with rfl | rfl | rfl <;> rfl
  have hfn : isBareFn d = false := by rcases h with rfl | rfl | rfl <;> rfl
  refine .of_operand hfn fun e rest rest' he hrest hrest' heq => ?_
  obtain ⟨hkeyword, hdetails⟩ := details_of_operand hd he hrest hrest' heq
  obtain rfl : d = e := by
    rcases h with rfl | rfl | rfl
    all_goals
      cases e with
      | integer _ kind =>
        exact absurd hkeyword (ne_text_of_mem_words (by simp [words, keyword, Kind.text]) kind)
      | _ => simp_all [keyword, Kind.text, Legible]
  exact ⟨rfl, List.append_cancel_left hdetails⟩

/-- A range written out. -/
theorem bounds_inj {low high low' high' : Int} {rest rest' : List Char}
    (h : ("[" ++ toString low ++ ", " ++ toString high ++ "]").toList ++ rest =
      ("[" ++ toString low' ++ ", " ++ toString high' ++ "]").toList ++ rest') :
    (low = low' ∧ high = high') ∧ rest = rest' := by
  have hlow : (toString low).toList ++ ',' :: ' ' :: ((toString high).toList ++ ']' :: rest) =
      (toString low').toList ++ ',' :: ' ' :: ((toString high').toList ++ ']' :: rest') := by
    simpa using h
  obtain ⟨rfl, hbehind⟩ := (reads_int low).before (by simp) trivial hlow
  obtain ⟨rfl, hrests⟩ := (reads_int high).before (by simp) trivial (List.cons.inj hbehind).2
  exact ⟨⟨rfl, rfl⟩, hrests⟩

theorem details_integer (n : Option String) (kind : IntegerKind) (low high : Int) :
    details (integer n kind low high) =
      if low = kind.low ∧ high = kind.high then ""
      else "[" ++ toString low ++ ", " ++ toString high ++ "]" := rfl

/-- A bracket stands behind no operand. -/
theorem not_stopsAt_bounds (low high : Int) (rest : List Char) :
    ¬ StopsAt operandMarks
      (("[" ++ toString low ++ ", " ++ toString high ++ "]").toList ++ rest) := by
  simp

/-- The full range of a kind is left out, so that only one range of a kind is
not written. -/
theorem range_inj {n : Option String} {kind : IntegerKind} {low high low' high' : Int}
    {rest rest' : List Char} (hrest : StopsAt operandMarks rest)
    (hrest' : StopsAt operandMarks rest')
    (h : (details (integer n kind low high)).toList ++ rest =
      (details (integer n kind low' high')).toList ++ rest') :
    (low = low' ∧ high = high') ∧ rest = rest' := by
  rw [details_integer, details_integer] at h
  split at h
  · next hfull =>
    split at h
    · next hfull' =>
      exact ⟨⟨hfull.1.trans hfull'.1.symm, hfull.2.trans hfull'.2.symm⟩, List.append_cancel_left h⟩
    · exact absurd (h ▸ hrest) (not_stopsAt_bounds low' high' rest')
  · split at h
    · exact absurd (h ▸ hrest') (not_stopsAt_bounds low high rest)
    · exact bounds_inj h

/-- The range of an integer is told where it is not that of its kind. -/
theorem readable_integer (kind : IntegerKind) (low high : Int) :
    Readable (integer none kind low high) := by
  have hd : (integer none kind low high).Legible := rfl
  refine .of_operand rfl fun e rest rest' he hrest hrest' h => ?_
  obtain ⟨hkeyword, hdetails⟩ := details_of_operand hd he hrest hrest' h
  cases e with
  | integer n' kind' low' high' =>
    obtain rfl : n' = none := he
    obtain rfl : kind = kind' := IntegerKind.text_injective hkeyword
    obtain ⟨⟨rfl, rfl⟩, hrests⟩ := range_inj hrest hrest' hdetails
    exact ⟨rfl, hrests⟩
  | _ =>
    exact absurd hkeyword.symm (ne_text_of_mem_words (by simp [words, keyword, Kind.text]) kind)

/-- A label is read up to the next quotation mark, since it holds none. -/
theorem reads_label {label : String} (hlabel : '"' ∉ label.toList) :
    Reads (fun l => '"' ∉ l.toList) quoted [',', ')'] label := by
  intro label' rest rest' hlabel' _ _ h
  have hquoted : label.toList ++ '"' :: rest = label'.toList ++ '"' :: rest' := by
    simpa [quoted] using h
  have hmarks : ∀ c ∈ ['"'], (c != '"') = false := by simp
  obtain ⟨hlabels, hrests⟩ := append_inj_of_stopsAt (p := (· != '"')) hmarks (by grind) (by grind)
    (by simp) (by simp) hquoted
  exact ⟨String.toList_injective hlabels, (List.cons.inj hrests).2⟩

/-- Labels without quotes are read one by one. -/
theorem readable_enum {labels : List String} (hlabels : ∀ label ∈ labels, '"' ∉ label.toList) :
    Readable (enum none labels) := by
  have hd : (enum none labels).Legible := ⟨rfl, hlabels⟩
  refine .of_operand rfl fun e rest rest' he hrest hrest' h => ?_
  obtain ⟨hkeyword, hdetails⟩ := details_of_operand hd he hrest hrest' h
  cases e with
  | enum n' labels' =>
    obtain ⟨rfl, hlabels'⟩ := he
    have hlists : (commaSeparated (labels.map quoted)).toList ++ ')' :: rest =
        (commaSeparated (labels'.map quoted)).toList ++ ')' :: rest' := by
      simpa [details] using hdetails
    obtain ⟨rfl, hrests⟩ := commaSeparated_inj (by decide) (by simp [quoted])
      (fun label hlabel => reads_label (hlabels label hlabel)) hlabels hlabels' hlists
    exact ⟨rfl, hrests⟩
  | integer _ kind => exact absurd hkeyword (ne_text_of_mem_words (by simp [words, keyword]) kind)
  | _ => simp [keyword, Kind.text] at hkeyword

/-- The name of a field is read up to the colon, since it holds none, and then
its descriptor. -/
theorem reads_field {f : String × Descriptor} (hname : LegibleName f.1) (h : Readable f.2) :
    Reads FieldLegible fieldText [',', '\x7d'] f := by
  intro g rest rest' hg hrest hrest' heq
  have hfields : f.1.toList ++ ':' :: ' ' :: ((render f.2).toList ++ rest) =
      g.1.toList ++ ':' :: ' ' :: ((render g.2).toList ++ rest') := by
    simpa [fieldText] using heq
  have hmarks : ∀ c ∈ [':'], (c != ':') = false := by simp
  have hcolon : ∀ n, LegibleName n → ∀ c ∈ n.toList, (c != ':') = true := by
    rintro n ⟨hn, -⟩ c hc
    grind
  obtain ⟨hnames, hbehind⟩ := append_inj_of_stopsAt hmarks (hcolon f.1 hname) (hcolon g.1 hg.1)
    (by simp) (by simp) hfields
  have hclosing : [',', '\x7d'] ⊆ closingMarks := by simp
  have hrenders : (render f.2).toList ++ rest = (render g.2).toList ++ rest' := by
    simpa using hbehind
  obtain ⟨hdescriptors, hrests⟩ := h.asWhole.mono hclosing g.2 rest rest' hg.2 hrest hrest' hrenders
  exact ⟨Prod.ext (String.toList_injective hnames) hdescriptors, hrests⟩

/-- A field begins with its name, and not with a brace. -/
theorem not_stopsAt_field {f : String × Descriptor} (hf : FieldLegible f) (rest : List Char) :
    ¬ StopsAt ['\x7d'] ((fieldText f).toList ++ rest) := by
  obtain ⟨-, hbrace⟩ := hf.1
  rw [fieldText, String.toList_append, String.toList_append, List.append_assoc]
  cases hname : f.1.toList with
  | nil => simp
  | cons c name =>
    rw [hname] at hbrace
    simp only [List.cons_append, stopsAt_cons, List.mem_singleton]
    rintro rfl
    exact hbrace List.mem_cons_self

/-- The marks at the front of details tell structs, pairs and functions apart. -/
theorem readable_struct {fields : List (String × Descriptor)} (hfields : FieldsLegible fields)
    (h : ∀ f ∈ fields, Readable f.2) : Readable (struct none fields) := by
  have hd : (struct none fields).Legible := ⟨rfl, hfields⟩
  refine .of_operand rfl fun e rest rest' he hrest hrest' heq => ?_
  obtain ⟨hkeyword, hdetails⟩ := details_of_operand hd he hrest hrest' heq
  cases e with
  | struct n' fields' =>
    obtain ⟨rfl, hfields'⟩ := he
    rw [fieldsLegible_iff] at hfields hfields'
    have hlists : (commaSeparated (fields.map fieldText)).toList ++ '\x7d' :: rest =
        (commaSeparated (fields'.map fieldText)).toList ++ '\x7d' :: rest' := by
      simpa [details] using hdetails
    obtain ⟨rfl, hrests⟩ := commaSeparated_inj (by decide) (fun _ => not_stopsAt_field)
      (fun f hf => reads_field (hfields f hf).1 (h f hf)) hfields hfields' hlists
    exact ⟨rfl, hrests⟩
  | pair | fn => simp [details] at hdetails
  | integer _ kind => exact absurd hkeyword (ne_text_of_mem_words (by simp [words, keyword]) kind)
  | _ => simp [keyword, Kind.text] at hkeyword

/-- A comma stands behind the first part of a pair, and a parenthesis behind a
function that stands in parentheses. -/
theorem readable_pair {first second : Descriptor} (hfirst : first.Legible)
    (hsecond : second.Legible) (h : Readable first) (h' : Readable second) :
    Readable (pair none first second) := by
  have hd : (pair none first second).Legible := ⟨rfl, hfirst, hsecond⟩
  refine .of_operand rfl fun e rest rest' he hrest hrest' heq => ?_
  obtain ⟨hkeyword, hdetails⟩ := details_of_operand hd he hrest hrest' heq
  cases e with
  | pair n' first' second' =>
    obtain ⟨rfl, hfirst', hsecond'⟩ := he
    have hboth : (render first).toList ++ ',' :: ' ' :: ((render second).toList ++ ')' :: rest) =
        (render first').toList ++ ',' :: ' ' :: ((render second').toList ++ ')' :: rest') := by
      simpa [details] using hdetails
    obtain ⟨rfl, hbehind⟩ := h.asWhole.before (by simp) hfirst' hboth
    obtain ⟨rfl, hrests⟩ := h'.asWhole.before (by simp) hsecond' (List.cons.inj hbehind).2
    exact ⟨rfl, hrests⟩
  | fn n' input output =>
    have hinner : (render first).toList ++ ',' :: ' ' :: ((render second).toList ++ ')' :: rest) =
        (render (fn n' input output)).toList ++ ')' :: rest' := by
      simpa [details] using hdetails
    obtain ⟨-, hmarks⟩ := h.asWhole _ _ _ he (by simp) (by simp) hinner
    simp at hmarks
  | struct => simp [details] at hdetails
  | integer _ kind => exact absurd hkeyword (ne_text_of_mem_words (by simp [words, keyword]) kind)
  | _ => simp [keyword, Kind.text] at hkeyword

/-- A vector is read as its element and its length. -/
theorem readable_vector {length : Nat} {element : Descriptor} (helement : element.Legible)
    (h : Readable element) : Readable (vector none length element) := by
  have hd : (vector none length element).Legible := ⟨rfl, helement⟩
  refine .of_operand rfl fun e rest rest' he hrest hrest' heq => ?_
  obtain ⟨hkeyword, hdetails⟩ := details_of_operand hd he hrest hrest' heq
  cases e with
  | vector n' length' element' =>
    obtain ⟨rfl, helement'⟩ := he
    have hboth :
        (toString length).toList ++ ',' :: ' ' :: ((render element).toList ++ ']' :: rest) =
        (toString length').toList ++ ',' :: ' ' :: ((render element').toList ++ ']' :: rest') := by
      simpa [details] using hdetails
    obtain ⟨rfl, hbehind⟩ := (reads_nat length).before (by simp) trivial hboth
    obtain ⟨rfl, hrests⟩ := h.asWhole.before (by simp) helement' (List.cons.inj hbehind).2
    exact ⟨rfl, hrests⟩
  | integer _ kind => exact absurd hkeyword (ne_text_of_mem_words (by simp [words, keyword]) kind)
  | _ => simp [keyword, Kind.text] at hkeyword

/-- A `maybe` is read as what is inside. -/
theorem readable_maybe {inner : Descriptor} (hinner : inner.Legible) (h : Readable inner) :
    Readable (maybe none inner) := by
  have hd : (maybe none inner).Legible := ⟨rfl, hinner⟩
  refine .of_operand rfl fun e rest rest' he hrest hrest' heq => ?_
  obtain ⟨hkeyword, hdetails⟩ := details_of_operand hd he hrest hrest' heq
  cases e with
  | maybe n' inner' =>
    obtain ⟨rfl, hinner'⟩ := he
    have hinners :
        (render inner).toList ++ '>' :: rest = (render inner').toList ++ '>' :: rest' := by
      simpa [details] using hdetails
    obtain ⟨rfl, hrests⟩ := h.asWhole.before (by simp) hinner' hinners
    exact ⟨rfl, hrests⟩
  | integer _ kind => exact absurd hkeyword (ne_text_of_mem_words (by simp [words, keyword]) kind)
  | _ => simp [keyword, Kind.text] at hkeyword

/-- The first arrow behind an operand is the arrow of the function, and all
that comes behind it is the output. -/
theorem reads_fn {input output : Descriptor} (h : Readable input) (h' : Readable output) :
    Reads Legible render closingMarks (fn none input output) := by
  intro e rest rest' he hrest hrest' heq
  by_cases hfn : isBareFn e = false
  · rw [toList_render_fn, ← operand_of_not_bareFn hfn] at heq
    obtain ⟨-, rfl⟩ := h.asOperand e _ rest' he (by simp) (operandMarks_of_closingMarks hrest') heq
    simp at hrest'
  · cases e with
    | fn n' input' output' =>
      obtain ⟨rfl, hinput', houtput'⟩ := he
      rw [toList_render_fn, toList_render_fn] at heq
      obtain ⟨rfl, hbehind⟩ := h.asOperand.before (by simp) hinput' heq
      have houtputs : (render output).toList ++ rest = (render output').toList ++ rest' := by
        simpa using hbehind
      obtain ⟨rfl, hrests⟩ := h'.asWhole output' rest rest' houtput' hrest hrest' houtputs
      exact ⟨rfl, hrests⟩
    | _ => simp [isBareFn] at hfn

/-- In parentheses, a function is told from a pair by what closes its first
part. -/
theorem readable_fn {input output : Descriptor} (hinput : input.Legible) (houtput : output.Legible)
    (h : Readable input) (h' : Readable output) : Readable (fn none input output) := by
  have hd : (fn none input output).Legible := ⟨rfl, hinput, houtput⟩
  have hwhole := reads_fn h h'
  refine ⟨fun e rest rest' he hrest hrest' heq => ?_, hwhole⟩
  obtain ⟨hkeyword, hdetails⟩ := details_of_operand hd he hrest hrest' heq
  cases e with
  | fn n' input' output' =>
    have hinner : (render (fn none input output)).toList ++ ')' :: rest =
        (render (fn n' input' output')).toList ++ ')' :: rest' := by
      simpa [details] using hdetails
    exact hwhole.before (by simp) he hinner
  | pair n' first second =>
    have hinner : (render (fn none input output)).toList ++ ')' :: rest =
        (render first).toList ++ ',' :: ' ' :: ((render second).toList ++ ')' :: rest') := by
      simpa [details] using hdetails
    obtain ⟨-, hmarks⟩ := hwhole _ _ _ he.2.1 (by simp) (by simp) hinner
    simp at hmarks
  | struct => simp [details] at hdetails
  | integer _ kind => exact absurd hkeyword (ne_text_of_mem_words (by simp [words, keyword]) kind)
  | _ => simp [keyword, Kind.text] at hkeyword

/-! ## Unique reading -/

mutual
/-- Every legible descriptor is read in one way. -/
theorem readable : (d : Descriptor) → d.Legible → Readable d
  | boolean _, h => by
      obtain rfl := h
      exact readable_word (.inl rfl)
  | string _, h => by
      obtain rfl := h
      exact readable_word (.inr (.inl rfl))
  | number _, h => by
      obtain rfl := h
      exact readable_word (.inr (.inr rfl))
  | integer _ kind low high, h => by
      obtain rfl := h
      exact readable_integer kind low high
  | enum _ labels, h => by
      obtain ⟨rfl, hlabels⟩ := h
      exact readable_enum hlabels
  | struct _ fields, h => by
      obtain ⟨rfl, hfields⟩ := h
      exact readable_struct hfields (readable_of_mem fields hfields)
  | pair _ first second, h => by
      obtain ⟨rfl, hfirst, hsecond⟩ := h
      exact readable_pair hfirst hsecond (readable first hfirst) (readable second hsecond)
  | vector _ length element, h => by
      obtain ⟨rfl, helement⟩ := h
      exact readable_vector helement (readable element helement)
  | maybe _ inner, h => by
      obtain ⟨rfl, hinner⟩ := h
      exact readable_maybe hinner (readable inner hinner)
  | fn _ input output, h => by
      obtain ⟨rfl, hinput, houtput⟩ := h
      exact readable_fn hinput houtput (readable input hinput) (readable output houtput)

/-- What stands in a legible field can be read. -/
theorem readable_of_mem : (fields : List (String × Descriptor)) → FieldsLegible fields →
    ∀ f ∈ fields, Readable f.2
  | [], _ => by simp
  | (_, d) :: fields, h => by
      intro f hf
      rcases List.mem_cons.mp hf with rfl | hf
      · exact readable d h.2.1
      · exact readable_of_mem fields h.2.2 f hf
end

/-- Legible descriptors have one shape exactly if they are equal in
structure. -/
theorem shape_eq_iff_same {d e : Descriptor} (hd : d.Legible) (he : e.Legible) :
    d.shape = e.shape ↔ d.same e = true := by
  rw [same_iff_unnamed, unnamed_of_legible d hd, unnamed_of_legible e he]
  constructor
  · intro hshapes
    have htexts : (render d).toList ++ [] = (render e).toList ++ [] := by
      rw [hd.render_eq, he.render_eq, hshapes]
    exact ((readable d hd).asWhole e [] [] he (by simp) (by simp) htexts).1
  · rintro rfl
    rfl

/-- An arrow to the left of an arrow does not read like one to its right. -/
theorem shape_eq_iff_same_arrows :
    let left := struct none [("step_1", fn none (fn none (boolean none) (string none))
      (enum none ["on", "off"]))]
    let right := struct none [("step_1", fn none (boolean none) (fn none (string none)
      (enum none ["on", "off"])))]
    left.Legible ∧ right.Legible ∧ left.shape ≠ right.shape := by
  intro left right
  have hname : LegibleName "step_1" := legibleName_of_word (by simp)
  have hleft : left.Legible := by simp [left, Legible, FieldsLegible, hname]
  have hright : right.Legible := by simp [right, Legible, FieldsLegible, hname]
  refine ⟨hleft, hright, fun hshapes => ?_⟩
  have hsame : left.same right = true := (shape_eq_iff_same hleft hright).mp hshapes
  simp [left, right, same, sameFields] at hsame

end Descriptor

end Conformance
