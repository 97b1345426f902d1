import Mathlib.Data.List.Nodup
import Mathlib.Data.List.Pairwise
import Mathlib.Tactic.Lemma
import ProposalBoard.Correlation

/-!
# Records that belong to a proposal

Poll, motion and threshold are looked up in lists of records. The lemmas on their values say which
record is found: the first poll that mentions a proposal (`Proposal.poll?_eq_some_iff`), the first
motion about it (`Proposal.motion?_eq_some_iff`) and, for a threshold that is not configured, the
first motion with the least id (`Config.threshold?_eq_some_iff`).

Where only one record can be meant, the order of the list does not matter: for poll and motion when
no other passes the same test (`find?_eq_of_perm`), for the threshold when no two motions share an
id (`Config.threshold?_eq_of_perm`).
-/

namespace ProposalBoard

/-! ## Lists in any order -/

variable {α β : Type} {xs ys : List α} {test : α → Bool}

/-- If no two elements of a list pass a test, those that pass are the same in any order. -/
lemma filter_eq_of_perm (hperm : ys.Perm xs)
    (hone : xs.Pairwise fun a b => ¬(test a = true ∧ test b = true)) :
    ys.filter test = xs.filter test := by
  have hfilter : (ys.filter test).Perm (xs.filter test) := hperm.filter test
  cases hxs : xs.filter test with
  | nil =>
    rw [hxs] at hfilter
    exact hfilter.eq_nil
  | cons a rest =>
    cases rest with
    | nil =>
      rw [hxs] at hfilter
      exact hfilter.eq_singleton
    | cons b rest =>
      -- the first two of those that pass contradict the uniqueness
      have hpairs := hone.filter test
      rw [hxs] at hpairs
      have ha : a ∈ xs.filter test := by simp [hxs]
      have hb : b ∈ xs.filter test := by simp [hxs]
      have hab := (List.pairwise_cons.mp hpairs).1 b List.mem_cons_self
      exact absurd ⟨(List.mem_filter.mp ha).2, (List.mem_filter.mp hb).2⟩ hab

/-- If no two elements of a list pass a test, the first that passes is the same in any order. -/
lemma find?_eq_of_perm (hperm : ys.Perm xs)
    (hone : xs.Pairwise fun a b => ¬(test a = true ∧ test b = true)) :
    ys.find? test = xs.find? test := by
  rw [← List.head?_filter, ← List.head?_filter, filter_eq_of_perm hperm hone]

/-- If a list has no two elements with the same key, no two have a given one. -/
lemma pairwise_key [DecidableEq β] {key : α → β} (hkeys : (xs.map key).Nodup) (k : β) :
    xs.Pairwise fun a b => ¬(decide (key a = k) = true ∧ decide (key b = k) = true) := by
  apply (List.pairwise_map.mp hkeys).imp
  intro a b hne hboth
  rw [decide_eq_true_eq, decide_eq_true_eq] at hboth
  exact hne (hboth.1.trans hboth.2.symm)

/-! ## Polls -/

/-- What a poll mentions is told by the hash without the blanks around it. -/
lemma Poll.mentions_iff {poll : Poll} {p : Proposal} :
    poll.mentions p = true ↔
      Text.trim p.transactionHash.toList ≠ [] ∧
        Text.trim p.transactionHash.toList <:+: poll.body.toList := by
  unfold mentions
  rw [Bool.and_eq_true, Text.occursIn_iff_isInfix, Bool.not_eq_true', List.isEmpty_eq_false_iff]

/-- The poll is the first of a list that mentions the transaction of a proposal. -/
def Poll.IsFirstMention (poll : Poll) (polls : List Poll) (p : Proposal) : Prop :=
  poll.mentions p = true ∧
    ∃ before after, polls = before ++ poll :: after ∧ ∀ q ∈ before, q.mentions p = false

/-- The poll on a proposal is the first that mentions it. -/
lemma Proposal.poll?_eq_some_iff {p : Proposal} {polls : List Poll} {poll : Poll} :
    p.poll? polls = some poll ↔ poll.IsFirstMention polls p := by
  unfold poll?
  rw [List.find?_eq_some_iff_append]
  simp [Poll.IsFirstMention]

/-! ## Motions -/

variable {ms ns : List Motion} {m : Motion}

/-- The motion is the first of a list that is about the proposal with an id. -/
def Motion.IsFirstAbout (m : Motion) (motions : List Motion) (id : UInt64) : Prop :=
  m.externalId = some id ∧
    ∃ before after, motions = before ++ m :: after ∧ ∀ n ∈ before, n.externalId ≠ some id

/-- The motion on a proposal is the first that is about it. -/
lemma Proposal.motion?_eq_some_iff {p : Proposal} :
    p.motion? ms = some m ↔ m.IsFirstAbout ms p.id := by
  unfold motion?
  rw [List.find?_eq_some_iff_append]
  simp [Motion.IsFirstAbout]

/-- If no two motions are about the same proposal, no two are about a given one. -/
lemma pairwise_externalId (hsubjects : (ms.filterMap Motion.externalId).Nodup) (id : UInt64) :
    ms.Pairwise fun m n =>
      ¬(decide (m.externalId = some id) = true ∧ decide (n.externalId = some id) = true) := by
  apply (List.pairwise_filterMap.mp hsubjects).imp
  intro m n hne hboth
  rw [decide_eq_true_eq, decide_eq_true_eq] at hboth
  exact hne id hboth.1 id hboth.2 rfl

/-! ## The earliest motion -/

/-- There is an earliest motion unless there is none at all. -/
lemma Motion.earliest?_eq_none_iff : Motion.earliest? ms = none ↔ ms = [] := by
  cases ms with
  | nil => simp [earliest?]
  | cons m rest =>
    unfold earliest?
    split
    · split <;> simp
    · simp

/-- The motion is the first of a list that has the least id. -/
def Motion.IsEarliest (m : Motion) (motions : List Motion) : Prop :=
  ∃ before after, motions = before ++ m :: after ∧
    (∀ n ∈ before, m.id < n.id) ∧ ∀ n ∈ after, m.id ≤ n.id

/-- In front of other motions, one is the earliest unless a later one has a smaller id. -/
lemma Motion.isEarliest_cons_iff {first : Motion} :
    m.IsEarliest (first :: ms) ↔
      (m = first ∧ ∀ n ∈ ms, first.id ≤ n.id) ∨ (m.id < first.id ∧ m.IsEarliest ms) := by
  constructor
  · rintro ⟨before, after, hsplit, hbefore, hafter⟩
    cases before with
    | nil =>
      obtain ⟨rfl, rfl⟩ := List.cons.inj hsplit
      exact .inl ⟨rfl, hafter⟩
    | cons b before =>
      obtain ⟨rfl, rfl⟩ := List.cons.inj hsplit
      obtain ⟨hfirst, hbefore⟩ := List.forall_mem_cons.mp hbefore
      exact .inr ⟨hfirst, before, after, rfl, hbefore, hafter⟩
  · rintro (⟨rfl, hafter⟩ | ⟨hfirst, before, after, rfl, hbefore, hafter⟩)
    · exact ⟨[], ms, rfl, nofun, hafter⟩
    · exact ⟨first :: before, after, rfl, List.forall_mem_cons.mpr ⟨hfirst, hbefore⟩, hafter⟩

/-- The earliest motion is one of the motions. -/
lemma Motion.IsEarliest.mem (h : m.IsEarliest ms) : m ∈ ms := by
  obtain ⟨before, after, rfl, -⟩ := h
  exact List.mem_append_cons_self

/-- No motion has a smaller id than the earliest one. -/
lemma Motion.IsEarliest.le (h : m.IsEarliest ms) : ∀ n ∈ ms, m.id ≤ n.id := by
  obtain ⟨before, after, rfl, hbefore, hafter⟩ := h
  intro n hn
  rcases List.mem_append.mp hn with hn | hn
  · exact UInt64.le_of_lt (hbefore n hn)
  · rcases List.mem_cons.mp hn with rfl | hn
    · exact UInt64.le_refl _
    · exact hafter n hn

/-- The search for the earliest motion finds the first one that has the least id. -/
lemma Motion.earliest?_eq_some_iff : Motion.earliest? ms = some m ↔ m.IsEarliest ms := by
  induction ms generalizing m with
  | nil => simp [earliest?, IsEarliest]
  | cons first rest ih =>
    rw [isEarliest_cons_iff, ← ih]
    cases hrest : earliest? rest with
    | none =>
      rw [earliest?_eq_none_iff] at hrest
      simp [earliest?, hrest, eq_comm]
    | some least =>
      -- the earliest of the others is the only one to compare the first with
      have hleast : ∀ n ∈ rest, least.id ≤ n.id := (ih.mp hrest).le
      have hmem : least ∈ rest := (ih.mp hrest).mem
      by_cases hlt : least.id < first.id
      · have hnot : ¬∀ n ∈ rest, first.id ≤ n.id :=
          fun hall => UInt64.not_le.mpr hlt (hall least hmem)
        simp only [earliest?, hrest, if_pos hlt, Option.some.injEq]
        constructor
        · rintro rfl
          exact .inr ⟨hlt, rfl⟩
        · rintro (⟨-, hall⟩ | ⟨-, heq⟩)
          · exact absurd hall hnot
          · exact heq
      · have hall : ∀ n ∈ rest, first.id ≤ n.id :=
          fun n hn => UInt64.le_trans (UInt64.not_lt.mp hlt) (hleast n hn)
        simp only [earliest?, hrest, if_neg hlt, Option.some.injEq]
        constructor
        · rintro rfl
          exact .inl ⟨rfl, hall⟩
        · rintro (⟨rfl, -⟩ | ⟨hm, rfl⟩)
          · rfl
          · exact absurd hm hlt

/-- If no two motions share an id, the earliest one is the same in any order. -/
lemma Motion.earliest?_eq_of_perm (hperm : ns.Perm ms) (hids : (ms.map Motion.id).Nodup) :
    Motion.earliest? ns = Motion.earliest? ms := by
  cases hms : earliest? ms with
  | none =>
    rw [earliest?_eq_none_iff] at hms ⊢
    rw [hms] at hperm
    exact hperm.eq_nil
  | some m =>
    cases hns : earliest? ns with
    | none =>
      rw [earliest?_eq_none_iff] at hns
      have hmem := hperm.mem_iff.mpr (earliest?_eq_some_iff.mp hms).mem
      rw [hns] at hmem
      cases hmem
    | some n =>
      have hm : m ∈ ms := (earliest?_eq_some_iff.mp hms).mem
      have hn : n ∈ ms := hperm.mem_iff.mp (earliest?_eq_some_iff.mp hns).mem
      have hle : m.id ≤ n.id := (earliest?_eq_some_iff.mp hms).le n hn
      have hge : n.id ≤ m.id := (earliest?_eq_some_iff.mp hns).le m (hperm.mem_iff.mpr hm)
      rw [List.inj_on_of_nodup_map hids hn hm (UInt64.le_antisymm hge hle)]

/-! ## The threshold -/

/-- The threshold is the configured one, or else the proposal that the first motion with the least
id is about, among the motions that are about any. -/
lemma Config.threshold?_eq_some_iff {config : Config} {id : UInt64} :
    config.threshold? ms = some id ↔
      config.federationThreshold = some id ∨
        config.federationThreshold = none ∧
          ∃ m : Motion, m.externalId = some id ∧
            m.IsEarliest (ms.filter (·.externalId.isSome)) := by
  unfold threshold?
  cases config.federationThreshold with
  | some threshold => simp
  | none =>
    simp [Option.bind_eq_some_iff, Motion.earliest?_eq_some_iff, and_comm]

/-- If no two motions share an id, the threshold is the same in any order. -/
lemma Config.threshold?_eq_of_perm {config : Config} (hperm : ns.Perm ms)
    (hids : (ms.map Motion.id).Nodup) : config.threshold? ns = config.threshold? ms := by
  have hfilter : ((ms.filter (·.externalId.isSome)).map Motion.id).Nodup :=
    hids.sublist (List.filter_sublist.map _)
  unfold threshold?
  rw [Motion.earliest?_eq_of_perm (hperm.filter _) hfilter]

/-! ## A motion put in between -/

/-- A motion whose id is greater than that of all others does not become the earliest one, wherever
it is put in. -/
lemma Motion.earliest?_insert (hsome : ms ++ ns ≠ []) (hlater : ∀ n ∈ ms ++ ns, n.id < m.id) :
    Motion.earliest? (ms ++ m :: ns) = Motion.earliest? (ms ++ ns) := by
  induction ms with
  | nil =>
    cases hns : earliest? ns with
    | none => exact absurd (earliest?_eq_none_iff.mp hns) hsome
    | some n =>
      have hlt : n.id < m.id := hlater n (earliest?_eq_some_iff.mp hns).mem
      simp [earliest?, hns, hlt]
  | cons first rest ih =>
    by_cases hrest : rest ++ ns = []
    · -- the new motion is compared with the first one alone
      obtain ⟨rfl, rfl⟩ := List.append_eq_nil_iff.mp hrest
      have hlt : first.id < m.id := hlater first List.mem_cons_self
      simp [earliest?, UInt64.lt_asymm hlt]
    · have htail : earliest? (rest ++ m :: ns) = earliest? (rest ++ ns) :=
        ih hrest fun n hn => hlater n (List.mem_cons_of_mem _ hn)
      simp only [List.cons_append, earliest?, htail]

/-- If there is a threshold, a motion later than all that are about a proposal does not move it. -/
lemma Config.threshold?_insert {config : Config}
    (hsome : config.federationThreshold.isSome = true ∨
      ∃ n ∈ ms ++ ns, n.externalId.isSome = true)
    (hlater : ∀ n ∈ ms ++ ns, n.externalId.isSome = true → n.id < m.id) :
    config.threshold? (ms ++ m :: ns) = config.threshold? (ms ++ ns) := by
  cases hconfig : config.federationThreshold with
  | some threshold => simp [threshold?, hconfig]
  | none =>
    obtain ⟨n, hn, hsubject⟩ : ∃ n ∈ ms ++ ns, n.externalId.isSome = true := by
      simpa [hconfig] using hsome
    unfold threshold?
    rw [List.filter_append, List.filter_append, List.filter_cons]
    split
    · rw [Motion.earliest?_insert]
      · rw [← List.filter_append]
        exact List.ne_nil_of_mem (List.mem_filter.mpr ⟨hn, hsubject⟩)
      · intro k hk
        rw [← List.filter_append] at hk
        obtain ⟨hmem, hksubject⟩ := List.mem_filter.mp hk
        exact hlater k hmem hksubject
    · rfl

/-- A proposal keeps its motion when one about another proposal is put in. -/
lemma Proposal.motion?_insert {p : Proposal} (hm : m.externalId ≠ some p.id) :
    p.motion? (ms ++ m :: ns) = p.motion? (ms ++ ns) := by
  unfold motion?
  rw [List.find?_append, List.find?_append, List.find?_cons_of_neg (by simpa using hm)]

/-- A proposal keeps its motion when others come after it. -/
lemma Proposal.motion?_append {p : Proposal} (hsome : (p.motion? ms).isSome = true) :
    p.motion? (ms ++ ns) = p.motion? ms := by
  unfold motion? at hsome ⊢
  rw [List.find?_append, Option.or_of_isSome hsome]

end ProposalBoard
