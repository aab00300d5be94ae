import ItemQuery.Engine
import ItemQuery.Proofs.Attribute.Compared
import ItemQuery.Proofs.Query.Spelling

/-!
Comparing levels and qualities by a query. Behind the tags of the level an operator and an integer are
answered by the relation of the described level to that integer (`Engine.accepts_level`); behind those
of the quality the first label that contains the text goes before the number (`Engine.accepts_quality`).
Where the level or the quality is known, the operators divide the numbers that can be read, of any size
and any fraction (`Engine.accepts_partitions`).
-/

namespace ItemQuery

open Atom (IsPlain IsTag)
open Attribute (IsTier Unlabelled)
open Literal (Denotes IsNumeral)
open Operator (Answers Partitions)

variable {ω : Type}

/-! ## Tags that reach an attribute -/

/-- A tag in small letters reaches a predicate. -/
structure Registry.Reaches {σ : Type} (r : Registry σ) (tag : Text) (p : Predicate σ) : Prop
    extends IsTag tag where
  lower_eq : Text.lower tag = tag
  resolve?_eq : r.resolve? tag = some p

theorem Registry.Reaches.of_letters {σ : Type} {r : Registry σ} {tag : Text} {p : Predicate σ}
    (hletters : tag ≠ [] ∧ tag.all Text.isAlphanumeric = true ∧ Text.lower tag = tag)
    (hresolve : r.resolve? tag = some p) : r.Reaches tag p where
  ne_nil := hletters.1
  isAlphanumeric := List.all_eq_true.mp hletters.2.1
  lower_eq := hletters.2.2
  resolve?_eq := hresolve

namespace Engine

def levelTags : List Text := ["l", "level", "lvl", "ilvl"].map String.toList

def qualityTags : List Text := ["q", "quality"].map String.toList

variable (source : Source ω) (sets : NamedSets) (item : Text)

theorem reaches_level : ∀ tag ∈ levelTags,
    (builtIn source sets).Reaches tag (Attribute.level source) := by
  simp only [levelTags, List.map_cons, List.map_nil, List.forall_mem_cons]
  exact ⟨.of_letters (by decide) rfl, .of_letters (by decide) rfl, .of_letters (by decide) rfl,
    .of_letters (by decide) rfl, List.forall_mem_nil _⟩

theorem reaches_quality : ∀ tag ∈ qualityTags,
    (builtIn source sets).Reaches tag (Attribute.quality source) := by
  simp only [qualityTags, List.map_cons, List.map_nil, List.forall_mem_cons]
  exact ⟨.of_letters (by decide) rfl, .of_letters (by decide) rfl, List.forall_mem_nil _⟩

variable {source sets item} {tag op x space : Text} {p : Predicate (Memory ω)}

/-- Behind such a tag the predicate judges the item by the operator and the text, whatever white space
is around the text. -/
theorem accepts_operator (htag : (builtIn source sets).Reaches tag p)
    (hop : op ∈ Operator.spellings) (hx : IsPlain (Text.trim x)) :
    (ofSource source sets).accepts (some item) (some (tag ++ op ++ x)) =
      p.judge item (some op) (Text.trim x) := by
  obtain ⟨space, behind, hspace, hbehind, hblanks⟩ := Text.exists_blanks_around x
  have hjudged : (builtIn source sets).evaluate item (tag ++ op ++ space ++ Text.trim x ++ behind) =
      p.judge item (some op) (Text.trim x) :=
    Registry.evaluate_operator _ item htag.toIsTag htag.lower_eq htag.resolve?_eq hop hx hspace
      hbehind
  have hquery : tag ++ op ++ space ++ Text.trim x ++ behind = tag ++ op ++ x := by
    conv_rhs => rw [hblanks]
    simp only [List.append_assoc]
  rw [hquery] at hjudged
  exact hjudged

theorem accepts_operator_blanks (htag : (builtIn source sets).Reaches tag p)
    (hop : op ∈ Operator.spellings) (hspace : ∀ c ∈ space, Text.isBlank c = true) (hx : IsPlain x) :
    (ofSource source sets).accepts (some item) (some (tag ++ op ++ space ++ x)) =
      p.judge item (some op) x := by
  have htrim : Text.trim (space ++ x) = x := by
    rw [Text.trim, Text.trimStart_append_of_blank hspace]
    exact hx.trim_eq
  have hjudged : (ofSource source sets).accepts (some item) (some (tag ++ op ++ (space ++ x))) = _ :=
    accepts_operator htag hop (htrim.symm ▸ hx)
  rwa [htrim, ← List.append_assoc] at hjudged

/-- A catalog of one ring. -/
def ringOf (quality : Option Nat) (level : Option Int) : Catalog :=
  { Catalog.empty with entries := [{
      id := 7
      name := "Ring".toList
      link := none
      kind := none
      subkind := none
      slot := none
      quality := quality
      level := level
      equippable := some true
      tooltip := [] }] }

/-! ## Levels -/

/-- An integer behind a tag of the level is compared with the described level, under every operator and
with white space in front of it or without; an unknown level is different from every integer. A text
that is no number is false under every operator, for whatever item. -/
theorem accepts_level (source : Source ω) (sets : NamedSets) (item : Text) (htag : tag ∈ levelTags)
    (hspace : ∀ c ∈ space, Text.isBlank c = true) :
    let asked (x op : Text) :=
      (ofSource source sets).accepts (some item) (some (tag ++ op ++ space ++ x))
    (∀ m found?, (source.describe item).reply m.world = .ok found? → ∀ x n, Denotes x n →
      Answers (fun op => (asked x op).reply m) (found?.bind Profile.level) n) ∧
    ∀ x, IsPlain x → ¬IsNumeral x → ∀ op ∈ Operator.spellings, asked x op = pure false := by
  intro asked
  have hasked : ∀ {x}, IsPlain x → ∀ op ∈ Operator.spellings,
      asked x op = (Attribute.level source).judge item (some op) x := fun hx op hop =>
    accepts_operator_blanks (reaches_level source sets tag htag) hop hspace hx
  refine ⟨?integer, ?text⟩
  case integer =>
    intro m found? hfound x n hdenotes
    have hmeasures := Attribute.level_measures hfound (Number.read?_of_denotes hdenotes)
    refine hmeasures.answers_int.congr fun op hop => ?_
    rw [hasked hdenotes.isNumeral.isPlain op hop]
  case text =>
    intro x hx hnumeral op hop
    rw [hasked hx op hop]
    exact Predicate.judge_of_refuses (Attribute.level_refuses hx.trim_eq hnumeral _)

/-- An item with a level below zero, written with leading zeros behind an ideographic blank. -/
theorem accepts_level_below_zero :
    let source : Source Unit := (ringOf none (some (-7))).source
    let sets : NamedSets := ⟨[]⟩
    let item := "item:7".toList
    let tag := "ilvl".toList
    let space := "\u3000".toList
    let asked (x op : Text) :=
      (ofSource source sets).accepts (some item) (some (tag ++ op ++ space ++ x))
    let m : Memory Unit := ⟨(), []⟩
    tag ∈ levelTags ∧ (∀ c ∈ space, Text.isBlank c = true) ∧ Denotes "-007".toList (-7) ∧
      IsPlain "ring".toList ∧ ¬IsNumeral "ring".toList ∧
      (∃ found?, (source.describe item).reply m.world = .ok found? ∧
        found?.bind Profile.level = some (-7)) ∧
      Answers (fun op => (asked "-007".toList op).reply m) (some (-7)) (-7) ∧
      ∀ op ∈ Operator.spellings, asked "ring".toList op = pure false := by
  intro source sets item tag space asked m
  have htag : tag ∈ levelTags := by decide
  have hspace : ∀ c ∈ space, Text.isBlank c = true := List.all_eq_true.mp (by decide)
  have hdenotes : Denotes "-007".toList (-7) :=
    ⟨['-'], by decide, "007".toList, ⟨by decide, List.all_eq_true.mp (by decide)⟩, by decide, rfl, rfl⟩
  have hplain : IsPlain "ring".toList := by decide
  have hnumeral : ¬IsNumeral "ring".toList := by decide
  obtain ⟨hinteger, htext⟩ := accepts_level source sets item htag hspace
  exact ⟨htag, hspace, hdenotes, hplain, hnumeral, ⟨_, rfl, rfl⟩,
    hinteger m _ rfl _ _ hdenotes, htext _ hplain hnumeral⟩

/-! ## Qualities -/

/-- Behind a tag of the quality, a text that is contained in a label stands for the tier of the first
such label, and so does the number of that tier if it is short enough to be read and contained in no
label itself. A text in no label is read as a number. The described quality is compared with either
under every operator, an unknown one is different from all, and what is neither is false under every
operator. -/
theorem accepts_quality (source : Source ω) (sets : NamedSets) (item : Text)
    (htag : tag ∈ qualityTags) (hspace : ∀ c ∈ space, Text.isBlank c = true) (hx : IsPlain x)
    {m : Memory ω} {found? : Option Profile}
    (hfound : (source.describe item).reply m.world = .ok found?) :
    let asked (x op : Text) :=
      (ofSource source sets).accepts (some item) (some (tag ++ op ++ space ++ x))
    let known? : Option Int := (found?.bind Profile.quality).map Nat.cast
    let labels := source.qualityLabels
    ((∃ label ∈ labels, Text.lower x <:+: Text.lower label) → ∃ tier : Nat, IsTier labels x tier ∧
      Answers (fun op => (asked x op).reply m) known? tier ∧
      (isReadable tier = true → Unlabelled labels (natText tier) →
        ∀ op ∈ Operator.spellings, asked x op = asked (natText tier) op)) ∧
    (Unlabelled labels x →
      (∀ n, Denotes x n → Answers (fun op => (asked x op).reply m) known? n) ∧
      (∀ n v, Number.read? x = .ok (some n) → n.place? = some v →
        Answers (fun op => (asked x op).reply m) (known?.bind fun q => (Number.int q).place?) v) ∧
      (¬IsNumeral x → ∀ op ∈ Operator.spellings, asked x op = pure false)) := by
  intro asked known? labels
  have hasked : ∀ {x}, IsPlain x → ∀ op ∈ Operator.spellings,
      asked x op = (Attribute.quality source).judge item (some op) x := fun hx op hop =>
    accepts_operator_blanks (reaches_quality source sets tag htag) hop hspace hx
  have hanswers : ∀ {α : Type} [LinearOrder α] {value? : Option α} {b : α},
      Answers (fun op => ((Attribute.quality source).judge item (some op) x).reply m) value? b →
      Answers (fun op => (asked x op).reply m) value? b := by
    intro α _ value? b h
    refine h.congr fun op hop => ?_
    rw [hasked hx op hop]
  refine ⟨fun ⟨label, hlabel, hcontains⟩ => ?label, fun hunlabelled => ⟨?integer, ?number, ?text⟩⟩
  case label =>
    obtain ⟨tier, htier⟩ := Attribute.exists_isTier fun h => h label hlabel hcontains
    have hcaptures := Attribute.quality_canSearch_of_tier htier
    refine ⟨tier, htier, hanswers (Attribute.quality_measures hfound hcaptures).answers_int, ?_⟩
    intro hreadable hdigits op hop
    have hdenotes : Denotes (natText tier) tier := Literal.denotes_natText hreadable
    have hread := Number.read?_of_denotes hdenotes
    rw [hasked hx op hop, hasked hdenotes.isNumeral.isPlain op hop]
    refine Predicate.judge_of_canSearch_eq ((hcaptures _).trans ?_)
    exact (Attribute.quality_canSearch_of_unlabelled hdigits hread _).symm
  case integer =>
    intro n hdenotes
    have hread := Number.read?_of_denotes hdenotes
    have hcaptures := Attribute.quality_canSearch_of_unlabelled hunlabelled hread
    exact hanswers (Attribute.quality_measures hfound hcaptures).answers_int
  case number =>
    intro n v hread hplace
    have hcaptures := Attribute.quality_canSearch_of_unlabelled hunlabelled hread
    exact hanswers ((Attribute.quality_measures hfound hcaptures).answers_place hplace)
  case text =>
    intro hnumeral op hop
    have hread := Number.read?_of_not_isNumeral hx.trim_eq hnumeral
    rw [hasked hx op hop]
    exact Predicate.judge_of_refuses
      (Attribute.quality_canSearch_of_unlabelled hunlabelled hread _)

/-- A label that is contained in another, of a higher tier than its own; the digits of its tier are in
no label. -/
theorem accepts_quality_common :
    let source : Source Unit := (ringOf (some 2) none).source
    let sets : NamedSets := ⟨[]⟩
    let item := "item:7".toList
    let tag := "quality".toList
    let space := " ".toList
    let asked (x op : Text) :=
      (ofSource source sets).accepts (some item) (some (tag ++ op ++ space ++ x))
    let labels := source.qualityLabels
    let m : Memory Unit := ⟨(), []⟩
    tag ∈ qualityTags ∧ (∀ c ∈ space, Text.isBlank c = true) ∧
      (∃ found?, (source.describe item).reply m.world = .ok found? ∧
        found?.bind Profile.quality = some 2) ∧
      IsPlain "common".toList ∧
      (∃ label ∈ labels, Text.lower "common".toList <:+: Text.lower label) ∧
      Answers (fun op => (asked "common".toList op).reply m) (some (2 : Int)) 1 ∧
      Unlabelled labels "1".toList ∧
      (∀ op ∈ Operator.spellings, asked "common".toList op = asked "1".toList op) ∧
      IsPlain "+02".toList ∧ Unlabelled labels "+02".toList ∧ Denotes "+02".toList 2 ∧
      Answers (fun op => (asked "+02".toList op).reply m) (some (2 : Int)) 2 ∧
      IsPlain "ring".toList ∧ Unlabelled labels "ring".toList ∧ ¬IsNumeral "ring".toList ∧
      ∀ op ∈ Operator.spellings, asked "ring".toList op = pure false := by
  intro source sets item tag space asked labels m
  have htag : tag ∈ qualityTags := by decide
  have hspace : ∀ c ∈ space, Text.isBlank c = true := List.all_eq_true.mp (by decide)
  have hcommon : IsPlain "common".toList := by decide
  have hring : IsPlain "ring".toList := by decide
  have hdenotes : Denotes "+02".toList 2 :=
    ⟨['+'], by decide, "02".toList, ⟨by decide, List.all_eq_true.mp (by decide)⟩, by decide, rfl, rfl⟩
  have htwo : IsPlain "+02".toList := hdenotes.isNumeral.isPlain
  have hlabel : ∃ label ∈ labels, Text.lower "common".toList <:+: Text.lower label :=
    ⟨"Uncommon".toList, by decide, "un".toList, [], by decide⟩
  have hfirst : Attribute.tierFor? labels "common".toList = some 1 := by decide
  have hdigits : Unlabelled labels "1".toList := Attribute.tierFor?_eq_none_iff.mp (by decide)
  have htwice : Unlabelled labels "+02".toList := Attribute.tierFor?_eq_none_iff.mp (by decide)
  have hnone : Unlabelled labels "ring".toList := Attribute.tierFor?_eq_none_iff.mp (by decide)
  have hnumeral : ¬IsNumeral "ring".toList := by decide
  obtain ⟨hlabelled, -⟩ := accepts_quality source sets item htag hspace hcommon (m := m) rfl
  obtain ⟨-, hnumber⟩ := accepts_quality source sets item htag hspace htwo (m := m) rfl
  obtain ⟨-, htext⟩ := accepts_quality source sets item htag hspace hring (m := m) rfl
  obtain ⟨tier, htier, hanswers, hsame⟩ := hlabelled hlabel
  have hone : tier = 1 :=
    Option.some.inj ((Attribute.tierFor?_eq_some_iff.mpr htier).symm.trans hfirst)
  subst hone
  exact ⟨htag, hspace, ⟨_, rfl, rfl⟩, hcommon, hlabel, hanswers, hdigits,
    hsame (by decide) hdigits, htwo, htwice, hdenotes, (hnumber htwice).1 2 hdenotes, hring, hnone,
    hnumeral, (htext hnone).2.2 hnumeral⟩

/-! ## How the operators divide numbers -/

/-- Where the level is known, exactly one of "less", "equal" and "greater" is accepted of any number
that can be read, and the other operators say what they are made of. The same holds of a known
quality. What is compared is the exact value of the integer or of the double that is read. -/
theorem accepts_partitions (source : Source ω) (sets : NamedSets) (item : Text) {n : Number}
    (hread : Number.read? x = .ok (some n)) {m : Memory ω} {profile : Profile}
    (hfound : (source.describe item).reply m.world = .ok (some profile)) :
    let asked (tag op : Text) :=
      ((ofSource source sets).accepts (some item) (some (tag ++ op ++ x))).reply m
    ∃ v, n.place? = some v ∧
      (∀ k, profile.level = some k → ∀ tag ∈ levelTags,
        Partitions (asked tag) ∧ Answers (asked tag) (Number.int k).place? v) ∧
      ∀ q, profile.quality = some q → ∀ tag ∈ qualityTags,
        Partitions (asked tag) ∧ (Unlabelled source.qualityLabels (Text.trim x) →
          Answers (asked tag) (Number.int q).place? v) := by
  intro asked
  obtain ⟨v, hv⟩ := Number.exists_place_of_read? hread
  have hread' : Number.read? (Text.trim x) = .ok (some n) := (Number.read?_trim x).trans hread
  have hasked : ∀ {tag p}, (builtIn source sets).Reaches tag p → ∀ op ∈ Operator.spellings,
      asked tag op = (p.judge item (some op) (Text.trim x)).reply m := by
    intro tag p htag op hop
    rw [← accepts_operator htag hop (Number.isNumeral_of_read? hread).isPlain]
  refine ⟨v, hv, ?level, ?quality⟩
  case level =>
    intro k hk tag htag
    have hmeasures := Attribute.level_measures hfound hread'
    have hanswers : Answers (asked tag) (Number.int k).place? v := by
      have hjudge := hmeasures.answers_place hv
      rw [Option.bind_some, hk, Option.bind_some] at hjudge
      exact hjudge.congr (hasked (reaches_level source sets tag htag))
    exact ⟨hanswers.partitions_int, hanswers⟩
  case quality =>
    intro q hq tag htag
    have hreaches := hasked (reaches_quality source sets tag htag)
    have hanswers : Unlabelled source.qualityLabels (Text.trim x) →
        Answers (asked tag) (Number.int q).place? v := by
      intro hunlabelled
      have hcaptures := Attribute.quality_canSearch_of_unlabelled hunlabelled hread'
      have hjudge := (Attribute.quality_measures hfound hcaptures).answers_place hv
      rw [Option.bind_some, hq, Option.map_some, Option.bind_some] at hjudge
      exact hjudge.congr hreaches
    refine ⟨?_, hanswers⟩
    by_cases hunlabelled : Unlabelled source.qualityLabels (Text.trim x)
    · exact (hanswers hunlabelled).partitions_int
    · obtain ⟨tier, htier⟩ := Attribute.exists_isTier hunlabelled
      have hjudge := (Attribute.quality_measures hfound
        (Attribute.quality_canSearch_of_tier htier)).answers_int
      rw [Option.bind_some, hq, Option.map_some] at hjudge
      exact (hjudge.congr hreaches).partitions

/-- A decimal so near to eighty that the double nearest to it is eighty. -/
theorem accepts_partitions_eighty :
    let source : Source Unit := (ringOf (some 2) (some 80)).source
    let sets : NamedSets := ⟨[]⟩
    let item := "item:7".toList
    let x := " 79.99999999999999999999".toList
    let eighty : Number := .double (.finite false 5629499534213120 (-46))
    let m : Memory Unit := ⟨(), []⟩
    let asked (tag op : Text) :=
      ((ofSource source sets).accepts (some item) (some (tag ++ op ++ x))).reply m
    Number.read? x = .ok (some eighty) ∧
      (∃ profile, (source.describe item).reply m.world = .ok (some profile) ∧
        profile.level = some 80 ∧ profile.quality = some 2) ∧
      (∀ tag ∈ levelTags, Partitions (asked tag)) ∧ (∀ tag ∈ qualityTags, Partitions (asked tag)) ∧
      asked "lvl".toList "=".toList = .ok true ∧ asked "q".toList "<".toList = .ok true := by
  intro source sets item x eighty m asked
  have hread : Number.read? x = .ok (some eighty) := by decide +kernel
  obtain ⟨v, -, hlevel, hquality⟩ := accepts_partitions source sets item hread (m := m) rfl
  exact ⟨hread, ⟨_, rfl, rfl, rfl⟩, fun tag htag => (hlevel 80 rfl tag htag).1,
    fun tag htag => (hquality 2 rfl tag htag).1, by decide +kernel, by decide +kernel⟩

end Engine

end ItemQuery
