import ItemQuery.Proofs.Query.Parse
import ItemQuery.Proofs.Text.Case

/-!
The grammar of atoms. A trimmed text is read as a tag, an operator and a text with white space
between them, of which the tag and the operator may be missing. The tag is the whole run of letters
and digits in front of a colon or another operator, the operator the longest that stands there. What
can be read so is what is read, and nothing is read exactly when white space is all that is left
(`Atom.parse?_iff`).
-/

namespace ItemQuery

/-! ## The longest operator -/

/-- What begins a text without the separator in it ends before the separator. -/
theorem Text.isPrefix_of_not_mem {a b rest : Text} {sep : Char} (h : a <+: b ++ sep :: rest)
    (hsep : sep ∉ a) : a <+: b := by
  by_cases hle : a.length ≤ b.length
  · exact List.prefix_of_prefix_length_le h (List.prefix_append b _) hle
  · have hfront : b ++ [sep] <+: b ++ sep :: rest := ⟨rest, by simp⟩
    have hlonger : b ++ [sep] <+: a :=
      List.prefix_of_prefix_length_le hfront h (by simp; omega)
    exact absurd (hlonger.subset (by simp)) hsep

namespace Operator

/-- `Leads op? rest t`: the longest operator at the start of `t` is `op?`, and `rest` stands behind
it. -/
inductive Leads : Option Text → Text → Text → Prop
  | given {op rest} : op ∈ spellings →
      (∀ op' ∈ spellings, op' <+: op ++ rest → op'.length ≤ op.length) →
      Leads (some op) rest (op ++ rest)
  | absent {t} : (∀ op ∈ spellings, ¬op <+: t) → Leads none t t

/-- Operators are tried from the longest to the shortest. -/
theorem spellings_descending : spellings.Pairwise fun op op' => op'.length ≤ op.length := by
  decide

theorem leads_of_take? {t op rest : Text} (h : take? t = some (op, rest)) :
    Leads (some op) rest t := by
  obtain ⟨earlier, op', later, hsplit, hfound, hmissed⟩ := List.findSome?_eq_some_iff.mp h
  obtain ⟨rest', hafter, heq⟩ := Option.map_eq_some_iff.mp hfound
  cases heq
  rw [Text.after?_eq_some_iff.mp hafter]
  refine .given (by simp [hsplit]) fun other hother hbegins => ?_
  obtain ⟨behind, hbehind⟩ := hbegins
  rw [hsplit, List.mem_append] at hother
  rcases hother with hbefore | hfrom
  · have hnone := hmissed other hbefore
    have hsome := Text.after?_eq_some_iff.mpr
      ((Text.after?_eq_some_iff.mp hafter).trans hbehind.symm)
    simp [hsome] at hnone
  · rcases List.mem_cons.mp hfrom with rfl | hlater
    · exact Nat.le_refl _
    · have hdescending := spellings_descending
      rw [hsplit, List.pairwise_append, List.pairwise_cons] at hdescending
      exact hdescending.2.1.1 other hlater

theorem take?_eq_none_iff {t : Text} : take? t = none ↔ ∀ op ∈ spellings, ¬op <+: t := by
  unfold take?
  rw [List.findSome?_eq_none_iff]
  refine forall₂_congr fun op _ => ?_
  rw [Option.map_eq_none_iff, Option.eq_none_iff_forall_ne_some]
  constructor
  · rintro h ⟨rest, hrest⟩
    exact h rest (Text.after?_eq_some_iff.mpr hrest.symm)
  · intro h rest hrest
    exact h ⟨rest, (Text.after?_eq_some_iff.mp hrest).symm⟩

/-- Of two operators that begin one text the longer begins with the shorter. -/
theorem take?_of_leads {t op rest : Text} (h : Leads (some op) rest t) :
    take? t = some (op, rest) := by
  cases h with
  | given hop hlongest =>
    cases hfound : take? (op ++ rest) with
    | none => exact absurd (List.prefix_append op rest) (take?_eq_none_iff.mp hfound op hop)
    | some found =>
      obtain ⟨op', rest'⟩ := found
      generalize ht : op ++ rest = t at hfound hlongest
      cases leads_of_take? hfound with
      | given hop' hlongest' =>
        have hle := hlongest op' hop' (List.prefix_append op' rest')
        have hge := hlongest' op hop (ht ▸ List.prefix_append op rest)
        obtain ⟨rfl, rfl⟩ := List.append_inj ht (by omega)
        rfl

theorem exists_leads (t : Text) : ∃ op? rest, Leads op? rest t := by
  cases h : take? t with
  | none => exact ⟨none, t, .absent (take?_eq_none_iff.mp h)⟩
  | some found => exact ⟨some found.1, found.2, leads_of_take? h⟩

/-- Operators are made of marks: their first character is no blank, letter or digit. -/
theorem head_of_mem_spellings {op : Text} (h : op ∈ spellings) :
    ∃ c ∈ op.head?, Text.isBlank c = false ∧ Text.isAlphanumeric c = false := by
  have hmarks : ∀ op ∈ spellings,
      (op.head?.any fun c => !Text.isBlank c && !Text.isAlphanumeric c) = true := by
    decide
  obtain ⟨c, hc, hmark⟩ := (Option.any_eq_true _ _).mp (hmarks op h)
  exact ⟨c, hc, by simpa using hmark⟩

theorem Leads.head {op rest t : Text} (h : Leads (some op) rest t) :
    ∃ c, op.head? = some c ∧ t.head? = some c ∧ Text.isBlank c = false ∧
      Text.isAlphanumeric c = false := by
  cases h with
  | given hop _ =>
    obtain ⟨c, hc, hmark⟩ := head_of_mem_spellings hop
    have hhead : (op ++ rest).head? = some c := by
      rw [List.head?_append, hc]
      rfl
    exact ⟨c, hc, hhead, hmark⟩

/-- Behind an operator nothing is trimmed at the start. -/
theorem Leads.trim_eq {op rest t : Text} (h : Leads (some op) rest t) (hend : Text.trimEnd t = t) :
    Text.trim t = t := by
  obtain ⟨c, -, hc, hblank, -⟩ := h.head
  exact Text.trim_eq_self_iff.mpr ⟨Text.trimStart_of_head hc hblank, hend⟩

theorem Leads.exists_front {op? : Option Text} {rest t : Text} (h : Leads op? rest t) :
    ∃ front, t = front ++ rest := by
  cases h with
  | given _ _ => exact ⟨_, rfl⟩
  | absent _ => exact ⟨[], rfl⟩

end Operator

open Operator (Leads)

namespace Atom

/-! ## Tags -/

/-- `name` is the whole run of letters and digits at the start of `name ++ behind`. -/
structure LeadingRun (name behind : Text) : Prop extends IsTag name where
  maximal : ∀ c, behind.head? = some c → Text.isAlphanumeric c = false

/-- A text begins with a tag: with a run of letters and digits, and behind it a colon or an operator
other than the colon. -/
def IsTagged (t : Text) : Prop :=
  ∃ name behind, LeadingRun name behind ∧ t = name ++ behind ∧
    ((∃ rest, behind = ':' :: rest) ∨ ∃ op rest, op ≠ [':'] ∧ Leads (some op) rest behind)

theorem IsTag.leadingRun_colon {tag : Text} (h : IsTag tag) (rest : Text) :
    LeadingRun tag (':' :: rest) where
  toIsTag := h
  maximal c hc := by
    cases hc
    decide

theorem LeadingRun.takeWhile {name behind : Text} (h : LeadingRun name behind) :
    (name ++ behind).takeWhile Text.isAlphanumeric = name :=
  Text.takeWhile_run h.isAlphanumeric h.maximal

theorem LeadingRun.dropWhile {name behind : Text} (h : LeadingRun name behind) :
    (name ++ behind).dropWhile Text.isAlphanumeric = behind :=
  Text.dropWhile_run h.isAlphanumeric h.maximal

/-- A text that begins with a letter or digit begins with a run of them. -/
theorem exists_leadingRun {t : Text} (h : t.takeWhile Text.isAlphanumeric ≠ []) :
    ∃ name behind, LeadingRun name behind ∧ t = name ++ behind := by
  refine ⟨t.takeWhile Text.isAlphanumeric, t.dropWhile Text.isAlphanumeric, ?_,
    List.takeWhile_append_dropWhile.symm⟩
  exact {
    ne_nil := h
    isAlphanumeric := List.all_eq_true.mp List.all_takeWhile
    maximal := Text.head_dropWhile Text.isAlphanumeric t }

theorem LeadingRun.takeTag?_colon {name rest : Text} (h : LeadingRun name (':' :: rest)) :
    takeTag? (name ++ ':' :: rest) = some (name, rest) :=
  h.toIsTag.takeTag? rest

theorem LeadingRun.takeTag?_of_ne {name behind : Text} (h : LeadingRun name behind)
    (hcolon : behind.head? ≠ some ':') :
    takeTag? (name ++ behind) = (Operator.take? behind).map fun _ => (name, behind) := by
  obtain ⟨c, tail, rfl⟩ := List.exists_cons_of_ne_nil h.ne_nil
  rw [takeTag?, h.takeWhile, h.dropWhile]
  cases behind with
  | nil => rfl
  | cons d rest =>
    have hd : d ≠ ':' := fun hd => hcolon (by rw [hd]; rfl)
    show (if d = ':' then _ else _) = _
    rw [if_neg hd]

/-- The colon is the only operator that begins with one. -/
theorem head_ne_colon_of_leads {op rest t : Text} (h : Leads (some op) rest t) (hop : op ≠ [':']) :
    t.head? ≠ some ':' := by
  have honly : ∀ op ∈ Operator.spellings, op.head? = some ':' → op = [':'] := by decide
  obtain ⟨c, hfirst, hc, -⟩ := h.head
  rw [hc, ← hfirst]
  cases h with
  | given hmem _ => exact fun hhead => hop (honly op hmem hhead)

theorem LeadingRun.takeTag?_operator {name op rest behind : Text} (h : LeadingRun name behind)
    (hop : op ≠ [':']) (hleads : Leads (some op) rest behind) :
    takeTag? (name ++ behind) = some (name, behind) := by
  rw [h.takeTag?_of_ne (head_ne_colon_of_leads hleads hop), Operator.take?_of_leads hleads]
  rfl

/-- An operator in front is no part of a tag. -/
theorem not_isTagged_of_leads {op rest t : Text} (h : Leads (some op) rest t) : ¬IsTagged t := by
  rintro ⟨name, behind, hname, rfl, -⟩
  obtain ⟨c, -, hc, -, hmark⟩ := h.head
  obtain ⟨d, tail, rfl⟩ := List.exists_cons_of_ne_nil hname.ne_nil
  cases hc
  rw [hname.isAlphanumeric c List.mem_cons_self] at hmark
  cases hmark

theorem takeTag?_eq_none_of_not_isTagged {t : Text} (h : ¬IsTagged t) : takeTag? t = none := by
  by_cases hrun : t.takeWhile Text.isAlphanumeric = []
  · rw [takeTag?, hrun]
  · obtain ⟨name, behind, hname, rfl⟩ := exists_leadingRun hrun
    have hcolon : behind.head? ≠ some ':' := by
      intro hhead
      obtain ⟨rest, rfl⟩ := List.head?_eq_some_iff.mp hhead
      exact h ⟨name, _, hname, rfl, .inl ⟨rest, rfl⟩⟩
    rw [hname.takeTag?_of_ne hcolon, Option.map_eq_none_iff]
    cases htake : Operator.take? behind with
    | none => rfl
    | some found =>
      have hleads := Operator.leads_of_take? htake
      refine absurd ⟨name, behind, hname, rfl, .inr ⟨found.1, found.2, ?_, hleads⟩⟩ h
      intro hop
      rw [hop] at hleads
      cases hleads with
      | given _ _ => exact hcolon rfl

/-! ## Atoms -/

/-- `Reads tag? op? rest t`: in front of `rest` the trimmed text `t` has a tag, in small letters, and
an operator, either of which may be missing. Behind a colon white space may stand. -/
inductive Reads : Option Text → Option Text → Text → Text → Prop
  | colon {name space body op? rest} : LeadingRun name (':' :: (space ++ body)) →
      (∀ c ∈ space, Text.isBlank c = true) → Leads op? rest body →
      Reads (some (Text.lower name)) op? rest (name ++ ':' :: (space ++ body))
  | operator {name body op rest} : LeadingRun name body → op ≠ [':'] → Leads (some op) rest body →
      Reads (some (Text.lower name)) (some op) rest (name ++ body)
  | plain {t op? rest} : ¬IsTagged t → Leads op? rest t → Reads none op? rest t

theorem Reads.exists_front {tag? op? : Option Text} {rest t : Text} (h : Reads tag? op? rest t) :
    ∃ front, t = front ++ rest := by
  cases h with
  | @colon name space body _ _ _ _ hleads =>
    obtain ⟨front, rfl⟩ := hleads.exists_front
    exact ⟨name ++ ':' :: (space ++ front), by simp⟩
  | @operator name _ _ _ _ _ hleads =>
    obtain ⟨front, rfl⟩ := hleads.exists_front
    exact ⟨name ++ front, by simp⟩
  | plain _ hleads => exact hleads.exists_front

/-- Every text can be read. White space behind a colon is left to stand before the operator. -/
theorem exists_reads (s : Text) : ∃ tag? op? rest, Reads tag? op? rest (Text.trim s) ∧
    (op? = none → Text.trim rest = rest) := by
  have hend := Text.trimEnd_trim s
  by_cases htagged : IsTagged (Text.trim s)
  · obtain ⟨name, behind, hname, ht, ⟨after, rfl⟩ | ⟨op, rest, hop, hleads⟩⟩ := htagged
    · obtain ⟨space, hspace, hafter⟩ := Text.exists_blanks after
      obtain ⟨op?, rest, hleads⟩ := Operator.exists_leads (Text.trimStart after)
      rw [hafter] at hname ht
      refine ⟨some (Text.lower name), op?, rest, ht ▸ .colon hname hspace hleads, ?_⟩
      rintro rfl
      cases hleads with
      | absent _ =>
        have hbody : name ++ ':' :: (space ++ Text.trimStart after) =
            (name ++ ':' :: space) ++ Text.trimStart after := by simp
        rw [ht, hbody] at hend
        exact Text.trim_eq_self_iff.mpr
          ⟨Text.trimStart_trimStart after, Text.trimEnd_of_append hend⟩
    · exact ⟨some (Text.lower name), some op, rest, ht ▸ .operator hname hop hleads, nofun⟩
  · obtain ⟨op?, rest, hleads⟩ := Operator.exists_leads (Text.trim s)
    refine ⟨none, op?, rest, .plain htagged hleads, ?_⟩
    rintro rfl
    cases hleads with
    | absent _ => exact Text.trim_trim s

/-! ## What is read -/

theorem Reads.mem_spellings {tag? : Option Text} {op rest t : Text}
    (h : Reads tag? (some op) rest t) : op ∈ Operator.spellings := by
  cases h with
  | colon _ _ hleads | operator _ _ hleads | plain _ hleads =>
    cases hleads with
    | given hop _ => exact hop

theorem Reads.no_operator {tag? : Option Text} {rest t : Text} (h : Reads tag? none rest t) :
    ∀ op ∈ Operator.spellings, ¬op <+: rest := by
  cases h with
  | colon _ _ hleads | plain _ hleads =>
    cases hleads with
    | absent hnone => exact hnone

theorem Reads.not_isTagged {rest t : Text} (h : Reads none none rest t) : ¬IsTagged rest := by
  cases h with
  | plain htagged hleads =>
    cases hleads with
    | absent _ => exact htagged

/-- A tag is the small form of what begins the text. -/
theorem Reads.exists_name {tag rest t : Text} {op? : Option Text}
    (h : Reads (some tag) op? rest t) :
    ∃ name behind, IsTag name ∧ tag = Text.lower name ∧ t = name ++ behind := by
  cases h with
  | colon hname _ _ => exact ⟨_, _, hname.toIsTag, rfl, rfl⟩
  | operator hname _ _ => exact ⟨_, _, hname.toIsTag, rfl, rfl⟩

theorem readBody?_of_leads {op? : Option Text} {rest t : Text} (h : Leads op? rest t)
    (tag? : Option Text) : readBody? tag? t =
      if Text.trim rest = [] then none else some ⟨Text.trim rest, tag?, op?⟩ := by
  cases op? with
  | some op =>
    rw [readBody?, Operator.take?_of_leads h]
    cases hrest : Text.trim rest <;> simp only [hrest, ↓reduceIte, reduceCtorEq]
  | none =>
    cases h with
    | absent hnone =>
      rw [readBody?, Operator.take?_eq_none_iff.mpr hnone]
      cases hrest : Text.trim rest <;> simp only [hrest, ↓reduceIte, reduceCtorEq]

theorem parse?_trim (s : Text) : parse? (Text.trim s) = parse? s := by
  unfold parse?
  rw [Text.trim_trim]

/-- However a text is read, what is left of it is trimmed and is the text of the atom. -/
theorem Reads.parse?_eq {tag? op? : Option Text} {rest s : Text}
    (h : Reads tag? op? rest (Text.trim s)) (hne : Text.trim s ≠ [])
    (hrest : op? = none → Text.trim rest = rest ∨ Text.trim rest = []) : parse? s =
      if Text.trim rest = [] then none else some ⟨Text.trim rest, tag?, op?⟩ := by
  have hend := Text.trimEnd_trim s
  rw [← parse?_trim, parse?_of_trimmed hne (Text.trim_trim s)]
  generalize Text.trim s = t at h hend
  cases h with
  | @colon name space body _ _ hname hspace hleads =>
    have htrim : Text.trim (space ++ body) = Text.trim body := by
      rw [Text.trim, Text.trimStart_append_of_blank hspace]
      rfl
    have hbody : name ++ ':' :: (space ++ body) = (name ++ ':' :: space) ++ body := by simp
    rw [hname.takeTag?_colon]
    dsimp only
    rw [htrim]
    cases op? with
    | some op =>
      rw [hbody] at hend
      rw [hleads.trim_eq (Text.trimEnd_of_append hend), readBody?_of_leads hleads]
    | none =>
      cases hleads with
      | absent hnone =>
        rcases hrest rfl with htrimmed | hblank
        · rw [htrimmed, readBody?_of_leads (.absent hnone), htrimmed]
        · rw [hblank]
          rfl
  | operator hname hop hleads =>
    rw [hname.takeTag?_operator hop hleads]
    dsimp only
    rw [hleads.trim_eq (Text.trimEnd_of_append hend), readBody?_of_leads hleads]
  | plain htagged hleads =>
    rw [takeTag?_eq_none_of_not_isTagged htagged]
    exact readBody?_of_leads hleads none

theorem parse?_of_blank {s : Text} (h : Text.trim s = []) : parse? s = none := by
  unfold parse?
  rw [h]

/-- The atom is what a trimmed text says: white space may stand between its operator and its text, and
the text is trimmed and not empty. -/
structure IsReadFrom (atom : Atom) (t : Text) : Prop where
  reads : ∃ space, Reads atom.tag atom.operator (space ++ atom.text) t ∧
    (∀ c ∈ space, Text.isBlank c = true) ∧ (atom.operator = none → space = [])
  text_ne_nil : atom.text ≠ []
  trim_text : Text.trim atom.text = atom.text

theorem IsReadFrom.parse?_eq {atom : Atom} {s : Text} (h : atom.IsReadFrom (Text.trim s)) :
    parse? s = some atom := by
  obtain ⟨space, hreads, hspace, hnone⟩ := h.reads
  have hrest : Text.trim (space ++ atom.text) = atom.text := by
    rw [Text.trim, Text.trimStart_append_of_blank hspace]
    exact h.trim_text
  have hne : Text.trim s ≠ [] := by
    obtain ⟨front, hfront⟩ := hreads.exists_front
    simp [hfront, h.text_ne_nil]
  have hclean : atom.operator = none → Text.trim (space ++ atom.text) = space ++ atom.text := by
    intro hop
    rw [hrest, hnone hop]
    rfl
  rw [hreads.parse?_eq hne fun hop => .inl (hclean hop), hrest, if_neg h.text_ne_nil]

/-- What is left behind the operator reaches to the end, so it is trimmed at the start alone. -/
theorem isReadFrom_of_parse? {atom : Atom} {s : Text} (h : parse? s = some atom) :
    atom.IsReadFrom (Text.trim s) := by
  obtain ⟨tag?, op?, rest, hreads, hclean⟩ := exists_reads s
  have hne : Text.trim s ≠ [] := by
    intro hnil
    rw [parse?_of_blank hnil] at h
    cases h
  rw [hreads.parse?_eq hne fun hop => .inl (hclean hop)] at h
  by_cases hnil : Text.trim rest = []
  · rw [if_pos hnil] at h
    cases h
  · rw [if_neg hnil] at h
    cases h
    obtain ⟨front, hfront⟩ := hreads.exists_front
    have hend := Text.trimEnd_trim s
    rw [hfront] at hend
    have hstart := Text.trim_of_trimEnd (Text.trimEnd_of_append hend)
    obtain ⟨space, hspace, hrest⟩ := Text.exists_blanks rest
    rw [← hstart] at hrest
    refine ⟨⟨space, hrest ▸ hreads, hspace, fun hop => ?_⟩, hnil, Text.trim_trim rest⟩
    rw [hclean hop] at hrest
    exact List.self_eq_append_left.mp hrest

/-- A tag that is read as such in front of a colon is made of letters and digits: nothing less than
all of it has its small form. -/
theorem isTag_of_parse? {tag rest : Text} {atom : Atom}
    (h : parse? (tag ++ ':' :: rest) = some atom) (htag : atom.tag = some (Text.lower tag)) :
    IsTag tag := by
  obtain ⟨space, hreads, -, -⟩ := (isReadFrom_of_parse? h).reads
  rw [htag] at hreads
  obtain ⟨name, behind, hname, hlower, ht⟩ := hreads.exists_name
  have hblank : ∀ c ∈ tag, Text.isBlank c = false := by
    intro c hc
    cases hcase : Text.isBlank c with
    | false => rfl
    | true =>
      have hfixed := Text.isFixed_of_isBlank hcase
      rw [← Text.mem_lower_iff hfixed, hlower, Text.mem_lower_iff hfixed] at hc
      rw [Text.not_isBlank_of_isAlphanumeric (hname.isAlphanumeric c hc)] at hcase
      cases hcase
  have hend : Text.trimEnd (':' :: rest) = ':' :: Text.trimEnd rest :=
    Text.trimEnd_cons_of_not_blank (by decide) rest
  have hstart : Text.trimStart (tag ++ ':' :: rest) = tag ++ ':' :: rest := by
    rw [Text.trimStart_eq_self_iff]
    intro c hc
    cases tag with
    | nil =>
      cases hc
      decide
    | cons d tag =>
      cases hc
      exact hblank c List.mem_cons_self
  rw [Text.trim, hstart, Text.trimEnd_append (by simp [hend]), hend] at ht
  have hcolon : ':' ∉ name := hname.not_mem (by decide)
  have hbegins : name <+: tag := Text.isPrefix_of_not_mem ⟨behind, ht.symm⟩ hcolon
  rwa [← Text.eq_of_isPrefix_of_lower_eq hbegins hlower.symm]

/-- An atom is read from exactly the texts that say it, and none from exactly those that are blank or
of which nothing but white space is left behind the tag and the operator. -/
theorem parse?_iff (s : Text) :
    (∀ atom, parse? s = some atom ↔ atom.IsReadFrom (Text.trim s)) ∧
    (parse? s = none ↔ Text.trim s = [] ∨
      ∃ tag? op? rest, Reads tag? op? rest (Text.trim s) ∧ ∀ c ∈ rest, Text.isBlank c = true) := by
  refine ⟨fun atom => ⟨isReadFrom_of_parse?, IsReadFrom.parse?_eq⟩, fun h => ?_, ?_⟩
  · by_cases hnil : Text.trim s = []
    · exact .inl hnil
    · obtain ⟨tag?, op?, rest, hreads, hclean⟩ := exists_reads s
      rw [hreads.parse?_eq hnil fun hop => .inl (hclean hop)] at h
      by_cases hrest : Text.trim rest = []
      · exact .inr ⟨tag?, op?, rest, hreads, Text.trim_eq_nil_iff.mp hrest⟩
      · rw [if_neg hrest] at h
        cases h
  · rintro (hnil | ⟨tag?, op?, rest, hreads, hblank⟩)
    · exact parse?_of_blank hnil
    · by_cases hnil : Text.trim s = []
      · exact parse?_of_blank hnil
      · have hrest := Text.trim_eq_nil_iff.mpr hblank
        rw [hreads.parse?_eq hnil fun _ => .inr hrest, if_pos hrest]

end Atom

end ItemQuery
