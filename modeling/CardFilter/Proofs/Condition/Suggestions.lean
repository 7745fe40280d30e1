import CardFilter.Condition.Parse
import CardFilter.Proofs.Condition.Nodes
import CardFilter.Proofs.Text.Edits
import Mathlib.Data.List.Perm.Basic
import Mathlib.Data.String.Basic
import Mathlib.Order.Bounds.Basic

/-!
# Suggestions

A name that is not that of a kind is answered with those that are near it.  All of them come from
one ranking of the twelve names, by their distance from what was typed and then by themselves, which
does not depend on how far names may be away: the limit only says where the ranking is cut off.  So
a wider limit adds names behind and changes nothing in front, and the first name, which is the one
that the reader of documents proposes, is a nearest one.
-/

namespace CardFilter

/-- The distance between two texts is the least number of edits from one to the other. -/
def Text.IsDistance (source target : List Char) (distance : Nat) : Prop :=
  IsLeast {count | Edits source count target} distance

theorem Text.isDistance_iff {source target : List Char} {distance : Nat} :
    IsDistance source target distance ↔ distance = editDistance source target :=
  ⟨fun h ↦ h.unique (isLeast_editDistance source target),
    fun h ↦ h ▸ isLeast_editDistance source target⟩

namespace Kind

/-- Whether a name comes before another one: it is nearer, or as near and smaller. -/
def Nearer (typed : List Char) (name other : String) : Prop :=
  ∃ distance further, Text.IsDistance typed name.toList distance ∧
    Text.IsDistance typed other.toList further ∧
      (distance < further ∨ distance = further ∧ name < other)

theorem isDistance_distance (kind : Kind) (typed : List Char) :
    Text.IsDistance typed kind.name.toList (kind.distance typed) :=
  Text.isLeast_editDistance typed kind.name.toList

/-! ## The ranking -/

/-- Whether a name with its distance may stand before another one. -/
def mayPrecede (a b : Nat × String) : Bool :=
  a.1 < b.1 || (a.1 == b.1 && !decide (b.2 < a.2))

theorem mayPrecede_iff {a b : Nat × String} :
    mayPrecede a b = true ↔ a.1 < b.1 ∨ a.1 = b.1 ∧ a.2 ≤ b.2 := by
  simp only [mayPrecede, Bool.or_eq_true, Bool.and_eq_true, decide_eq_true_eq, beq_iff_eq,
    Bool.not_eq_true', decide_eq_false_iff_not, not_lt]

theorem mayPrecede_trans (a b c : Nat × String) (hab : mayPrecede a b = true)
    (hbc : mayPrecede b c = true) : mayPrecede a c = true := by
  rw [mayPrecede_iff] at *
  rcases hab with hab | ⟨hab, hnames⟩
  · left
    rcases hbc with hbc | ⟨hbc, -⟩ <;> omega
  · rcases hbc with hbc | ⟨hbc, hothers⟩
    · left
      omega
    · exact .inr ⟨hab.trans hbc, hnames.trans hothers⟩

theorem mayPrecede_total (a b : Nat × String) : (mayPrecede a b || mayPrecede b a) = true := by
  rw [Bool.or_eq_true, mayPrecede_iff, mayPrecede_iff]
  rcases Nat.lt_trichotomy a.1 b.1 with hlt | heq | hgt
  · exact .inl (.inl hlt)
  · rcases le_total a.2 b.2 with hle | hge
    · exact .inl (.inr ⟨heq, hle⟩)
    · exact .inr (.inr ⟨heq.symm, hge⟩)
  · exact .inr (.inl hgt)

theorem eq_of_mayPrecede {a b : Nat × String} (hab : mayPrecede a b = true)
    (hba : mayPrecede b a = true) : a = b := by
  rw [mayPrecede_iff] at hab hba
  have hdistance : a.1 = b.1 := by omega
  refine Prod.ext hdistance (le_antisymm ?_ ?_)
  · exact (hab.resolve_left (by omega)).2
  · exact (hba.resolve_left (by omega)).2

/-- The names of all kinds with their distances. -/
def ranked (typed : List Char) : List (Nat × String) :=
  all.map fun kind ↦ (kind.distance typed, kind.name)

def ranking (typed : List Char) : List (Nat × String) := (ranked typed).mergeSort mayPrecede

theorem pairwise_ranking (typed : List Char) :
    (ranking typed).Pairwise fun a b ↦ mayPrecede a b = true :=
  List.pairwise_mergeSort mayPrecede_trans mayPrecede_total (ranked typed)

/-- Names that are too far away may be left out before the others are put in order or after. -/
theorem suggestions_eq (text : String) (limit : Nat) :
    suggestions text limit =
      ((ranking (Text.upperTrimmed text)).filter (·.1 ≤ limit)).map (·.2) := by
  have hperm : (((ranked (Text.upperTrimmed text)).filter (·.1 ≤ limit)).mergeSort
      mayPrecede).Perm ((ranking (Text.upperTrimmed text)).filter (·.1 ≤ limit)) :=
    (List.mergeSort_perm _ _).trans ((List.mergeSort_perm _ _).filter _).symm
  have hsorted := List.pairwise_mergeSort mayPrecede_trans mayPrecede_total
    ((ranked (Text.upperTrimmed text)).filter (·.1 ≤ limit))
  have hranking := (pairwise_ranking (Text.upperTrimmed text)).filter (·.1 ≤ limit)
  have hsame := hperm.eq_of_pairwise (fun a b _ _ ↦ eq_of_mayPrecede) hsorted hranking
  exact congrArg (List.map (·.2)) hsame

theorem mem_ranking {typed : List Char} {entry : Nat × String} :
    entry ∈ ranking typed ↔ ∃ kind : Kind, (kind.distance typed, kind.name) = entry := by
  have hall (kind : Kind) : kind ∈ all := by cases kind <;> decide
  rw [ranking, List.mem_mergeSort, ranked, List.mem_map]
  exact exists_congr fun kind ↦ and_iff_right (hall kind)

theorem nodup_names_ranking (typed : List Char) : ((ranking typed).map (·.2)).Nodup := by
  have hnames : (all.map name).Nodup := by decide
  have hperm : ((ranking typed).map (·.2)).Perm ((ranked typed).map (·.2)) :=
    (List.mergeSort_perm _ _).map _
  rw [hperm.nodup_iff, ranked, List.map_map]
  exact hnames

/-! ## Cutting off -/

theorem isPrefix_filter {entries : List (Nat × String)}
    (hsorted : entries.Pairwise fun a b ↦ mayPrecede a b = true) {limit wider : Nat}
    (h : limit ≤ wider) : entries.filter (·.1 ≤ limit) <+: entries.filter (·.1 ≤ wider) := by
  induction entries with
  | nil => exact List.nil_prefix
  | cons first rest ih =>
    obtain ⟨hfirst, hrest⟩ := List.pairwise_cons.1 hsorted
    by_cases hnear : first.1 ≤ limit
    · rw [List.filter_cons_of_pos (by simpa using hnear),
        List.filter_cons_of_pos (by simpa using hnear.trans h)]
      exact List.prefix_cons_inj first |>.2 (ih hrest)
    · -- Nothing behind is nearer.
      have hnone : (first :: rest).filter (·.1 ≤ limit) = [] := by
        rw [List.filter_eq_nil_iff, List.forall_mem_cons]
        refine ⟨by simpa using hnear, fun entry hentry ↦ ?_⟩
        have hbehind := mayPrecede_iff.1 (hfirst entry hentry)
        simp only [decide_eq_true_eq]
        omega
      rw [hnone]
      exact List.nil_prefix

theorem mem_suggestions_iff {text name : String} {limit : Nat} :
    name ∈ suggestions text limit ↔ (∃ kind : Kind, kind.name = name) ∧
      ∃ distance ≤ limit, Text.IsDistance (Text.upperTrimmed text) name.toList distance := by
  simp only [suggestions_eq, List.mem_map, List.mem_filter, mem_ranking, decide_eq_true_eq]
  constructor
  · rintro ⟨_, ⟨⟨kind, rfl⟩, hlimit⟩, rfl⟩
    exact ⟨⟨kind, rfl⟩, kind.distance _, hlimit, kind.isDistance_distance _⟩
  · rintro ⟨⟨kind, rfl⟩, distance, hlimit, hdistance⟩
    obtain rfl := hdistance.unique (kind.isDistance_distance (Text.upperTrimmed text))
    exact ⟨_, ⟨⟨kind, rfl⟩, hlimit⟩, rfl⟩

theorem nodup_suggestions (text : String) (limit : Nat) : (suggestions text limit).Nodup := by
  rw [suggestions_eq]
  exact (nodup_names_ranking _).sublist (List.filter_sublist.map _)

theorem pairwise_suggestions (text : String) (limit : Nat) :
    (suggestions text limit).Pairwise (Nearer (Text.upperTrimmed text)) := by
  rw [suggestions_eq, List.pairwise_map]
  have hnames := List.pairwise_map.1 (nodup_names_ranking (Text.upperTrimmed text))
  have hboth := (pairwise_ranking (Text.upperTrimmed text)).and hnames
  refine (List.Pairwise.and_mem.1 hboth).imp ?_ |>.filter _
  rintro a b ⟨ha, hb, hprecedes, hne⟩
  obtain ⟨kind, rfl⟩ := mem_ranking.1 ha
  obtain ⟨other, rfl⟩ := mem_ranking.1 hb
  simp only [mayPrecede_iff] at hprecedes hne ⊢
  refine ⟨_, _, kind.isDistance_distance _, other.isDistance_distance _, ?_⟩
  rcases hprecedes with hlt | ⟨heq, hle⟩
  · exact .inl hlt
  · exact .inr ⟨heq, lt_of_le_of_ne hle hne⟩

end Kind

/-! ## Proposals -/

namespace Fault

/-- What is said of a name that is not that of a kind, with a proposal or without. -/
def unknownKind (text : String) : Option String → String
  | some name => "unknown nodeType '" ++ text ++ "' (did you mean '" ++ name ++ "'?)"
  | none => "unknown nodeType '" ++ text ++ "'"

theorem message_kindUnknown (text : String) :
    (Cause.kindUnknown text).message =
      unknownKind text (Kind.suggestions text slipLimit).head? := by
  unfold Cause.message
  dsimp only
  generalize Kind.suggestions text slipLimit = names
  cases names <;> rfl

end Fault

namespace Kind

/-- A kind is proposed if its name is near enough and comes before all others. -/
structure IsProposal (text : String) (kind : Kind) : Prop where
  near : ∃ distance ≤ Fault.slipLimit,
    Text.IsDistance (Text.upperTrimmed text) kind.name.toList distance
  nearest : ∀ other, other ≠ kind → Nearer (Text.upperTrimmed text) kind.name other.name

theorem Nearer.asymm {typed : List Char} {name other : String} (h : Nearer typed name other) :
    ¬ Nearer typed other name := by
  rintro ⟨_, _, hother, hname, hback⟩
  obtain ⟨_, _, hname', hother', h⟩ := h
  rw [Text.isDistance_iff] at hname hother hname' hother'
  subst hname hother hname' hother'
  rcases h with h | ⟨h, hlt⟩
  · omega
  · exact lt_asymm hlt (hback.resolve_left (by omega)).2

theorem isProposal_of_head? {text name : String}
    (h : (suggestions text Fault.slipLimit).head? = some name) :
    ∃ kind : Kind, kind.IsProposal text ∧ kind.name = name := by
  obtain ⟨rest, hlist⟩ := List.head?_eq_some_iff.1 h
  have hmem {other : String} : other ∈ suggestions text Fault.slipLimit ↔ _ :=
    mem_suggestions_iff
  have hpairwise := pairwise_suggestions text Fault.slipLimit
  rw [hlist] at hmem hpairwise
  obtain ⟨⟨kind, rfl⟩, distance, hlimit, hdistance⟩ := hmem.1 List.mem_cons_self
  refine ⟨kind, ⟨⟨distance, hlimit, hdistance⟩, fun other hother ↦ ?_⟩, rfl⟩
  by_cases hlisted : other.name ∈ kind.name :: rest
  · have hne : other.name ≠ kind.name := name_injective.ne hother
    exact (List.pairwise_cons.1 hpairwise).1 _ ((List.mem_cons.1 hlisted).resolve_left hne)
  · -- What is not listed is beyond the limit.
    have hfurther := other.isDistance_distance (Text.upperTrimmed text)
    refine ⟨distance, _, hdistance, hfurther, .inl (Nat.lt_of_le_of_lt hlimit ?_)⟩
    by_contra hnear
    exact hlisted (hmem.2 ⟨⟨other, rfl⟩, _, not_lt.1 hnear, hfurther⟩)

theorem head?_suggestions_iff {text name : String} :
    (suggestions text Fault.slipLimit).head? = some name ↔
      ∃ kind : Kind, kind.IsProposal text ∧ kind.name = name := by
  refine ⟨isProposal_of_head?, ?_⟩
  rintro ⟨kind, hkind, rfl⟩
  have hlisted := mem_suggestions_iff.2 ⟨⟨kind, rfl⟩, hkind.near⟩
  cases hfirst : (suggestions text Fault.slipLimit).head? with
  | none =>
    rw [List.head?_eq_none_iff.1 hfirst] at hlisted
    cases hlisted
  | some name =>
    obtain ⟨first, hproposal, rfl⟩ := isProposal_of_head? hfirst
    by_cases hsame : first = kind
    · rw [hsame]
    · exact absurd (hkind.nearest first hsame) (hproposal.nearest kind (Ne.symm hsame)).asymm

end Kind

theorem Node.parse_kindUnknown {members : List (String × Json)} {text : String}
    (hkind : members.lookup "nodeType" = some (.string text)) (hgroup : text ≠ groupName)
    (hunknown : ∀ kind : Kind, text ≠ kind.name) (place : List Nat) :
    parse place (.object members) = ⟨.error ⟨some place, .kindUnknown text⟩, []⟩ := by
  have hname : Kind.ofName? text = none :=
    Option.eq_none_iff_forall_ne_some.2 fun kind h ↦ hunknown kind (Kind.ofName?_eq_some.1 h)
  simp only [parse, kindName, hkind, hgroup, if_false, parseLeaf, hname, fault]

namespace Kind

/-- The suggestions for a text are the names of kinds up to a distance, each once, in the order of
their distances and then of the names, and a wider limit only adds names behind.  A node whose kind
has an unknown name is answered with the name that comes before all others, if that is no further
away than a slip, and else without a proposal. -/
theorem suggestions_nearest_first (text : String) :
    (∀ source target, Text.IsDistance source target (Text.editDistance source target)) ∧
    (∀ limit, (suggestions text limit).Nodup ∧
      (∀ name, name ∈ suggestions text limit ↔ (∃ kind : Kind, kind.name = name) ∧
        ∃ distance ≤ limit, Text.IsDistance (Text.upperTrimmed text) name.toList distance) ∧
      (suggestions text limit).Pairwise (Nearer (Text.upperTrimmed text)) ∧
      ∀ wider, limit ≤ wider → suggestions text limit <+: suggestions text wider) ∧
    ∀ members : List (String × Json), members.lookup "nodeType" = some (.string text) →
      text ≠ Node.groupName → (∀ kind : Kind, text ≠ kind.name) →
      ∃ cause proposal, cause.message = Fault.unknownKind text proposal ∧
        (∀ place, Node.parse place (.object members) = ⟨.error ⟨some place, cause⟩, []⟩) ∧
        ∀ name, proposal = some name ↔ ∃ kind : Kind, kind.IsProposal text ∧ kind.name = name := by
  refine ⟨Text.isLeast_editDistance, fun limit ↦ ?_, ?_⟩
  · refine ⟨nodup_suggestions text limit, fun _ ↦ mem_suggestions_iff,
      pairwise_suggestions text limit, fun wider hwider ↦ ?_⟩
    rw [suggestions_eq, suggestions_eq]
    exact (isPrefix_filter (pairwise_ranking (Text.upperTrimmed text)) hwider).map _
  · intro members hkind hgroup hunknown
    exact ⟨.kindUnknown text, _, Fault.message_kindUnknown text,
      Node.parse_kindUnknown hkind hgroup hunknown, fun _ ↦ head?_suggestions_iff⟩

/-- A name in lower case, behind a space and with two slips. -/
theorem suggestions_nearest_first_slips :
    let members := [("nodeType", Json.string " tekst")]
    suggestions " tekst" 2 <+: suggestions " tekst" 4 ∧
      Text.IsDistance "TEKST".toList "TEXT".toList 2 ∧
      ∃ cause, Node.parse [] (.object members) = ⟨.error ⟨some [], cause⟩, []⟩ ∧
        cause.message = "unknown nodeType ' tekst' (did you mean 'TEXT'?)" := by
  intro members
  obtain ⟨hdistance, hlists, hproposes⟩ := suggestions_nearest_first " tekst"
  obtain ⟨-, -, -, hwider⟩ := hlists 2
  obtain ⟨cause, proposal, hmessage, hparse, hproposal⟩ :=
    hproposes members rfl (by decide) (fun kind ↦ by cases kind <;> decide)
  have hname : proposal = some "TEXT" := by
    refine (hproposal "TEXT").2 ⟨.text, ⟨⟨2, le_rfl, Text.isDistance_iff.2 (by decide)⟩, ?_⟩, rfl⟩
    intro other hother
    refine ⟨_, _, isDistance_distance .text _, isDistance_distance other _, ?_⟩
    revert hother
    cases other <;> decide
  refine ⟨hwider 4 (by decide), hdistance _ _, cause, hparse [], ?_⟩
  rw [hmessage, hname]
  rfl

end Kind

end CardFilter
