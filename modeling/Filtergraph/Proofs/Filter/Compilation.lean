import Mathlib.Data.List.Forall2
import Filtergraph.Filter.Literal
import Filtergraph.Proofs.Filter.Arrangement

/-!
# Compiled filters

Filters are compiled in their stable arrangement: the arguments are those of the single filters,
one after another.  Where filters are inserted in another order, the arguments, the failure and the
notes stay the same as long as filters of one priority keep their order.
-/

namespace Filtergraph

namespace Report

/-- A result without notes hands over to what follows. -/
@[simp] theorem pure_andThen (a : α) (next : α -> Report β) :
    (pure a : Report α).andThen next = next a := rfl

@[simp] theorem outcome_ofExcept (outcome : Except Failure α) :
    (ofExcept outcome).outcome = outcome := rfl

theorem andThen_outcome (report : Report α) (next : α -> Report β) :
    (report.andThen next).outcome = report.outcome >>= fun a => (next a).outcome := by
  obtain ⟨notes, outcome⟩ := report
  cases outcome <;> rfl

/-- What follows without notes leaves the notes as they are. -/
@[simp] theorem notes_andThen_ofExcept (report : Report α) (next : α -> Except Failure β) :
    (report.andThen fun a => ofExcept (next a)).notes = report.notes := by
  obtain ⟨notes, outcome⟩ := report
  cases outcome <;> simp [andThen, ofExcept]

/-- What follows a report has a result exactly if both have one. -/
theorem andThen_outcome_eq_ok_iff
    {report : Report α}
    {next : α -> Report β}
    {b : β} :
    (report.andThen next).outcome = .ok b ↔
      ∃ a, report.outcome = .ok a ∧ (next a).outcome = .ok b := by
  rw [andThen_outcome, bind_eq_ok_iff]

/-- Three reports one after another can be grouped either way. -/
theorem andThen_assoc
    (report : Report α)
    (next : α -> Report β)
    (last : β -> Report γ) :
    (report.andThen next).andThen last = report.andThen fun a => (next a).andThen last := by
  obtain ⟨notes, outcome⟩ := report
  cases outcome with
  | error failure => rfl
  | ok a =>
      cases following : next a with
      | mk more result =>
          cases result with
          | error failure => simp [andThen, following]
          | ok b => simp [andThen, following, List.append_assoc]

end Report

namespace Filter

/-! ## Contributions in one list -/

/-- The parts are what the filters contribute, one for one and in order. -/
def Contribute (contribute : Filter -> Contribution) :
    List Filter -> List (List Argument) -> Prop :=
  List.Forall₂ fun filter part => contribute filter = .ok (some part)

/-- What a filter contributes stands in front of what the others contribute. -/
theorem gather_cons_eq_ok_iff
    {contribute : Filter -> Contribution}
    {filter : Filter}
    {rest : List Filter}
    {arguments : List Argument} :
    gather contribute (filter :: rest) = .ok arguments ↔
      ∃ part others, contribute filter = .ok (some part) ∧ gather contribute rest = .ok others ∧
        part ++ others = arguments := by
  rw [gather, bind_eq_ok_iff]
  constructor
  · rintro ⟨contribution, own, joined⟩
    cases contribution with
    | none => cases joined
    | some part =>
        obtain ⟨others, gathered, same⟩ := bind_eq_ok_iff.mp joined
        exact ⟨part, others, own, gathered, Except.ok.inj same⟩
  · rintro ⟨part, others, own, gathered, rfl⟩
    exact ⟨some part, own, bind_eq_ok_iff.mpr ⟨others, gathered, rfl⟩⟩

/-- Contributions are joined exactly if all filters make one. -/
theorem gather_eq_ok_iff
    {contribute : Filter -> Contribution}
    {filters : List Filter}
    {arguments : List Argument} :
    gather contribute filters = .ok arguments ↔
      ∃ parts, Contribute contribute filters parts ∧ parts.flatten = arguments := by
  induction filters generalizing arguments with
  | nil => simp [gather, Contribute, eq_comm]
  | cons filter rest inductionHypothesis =>
      rw [gather_cons_eq_ok_iff]
      constructor
      · rintro ⟨part, others, own, gathered, rfl⟩
        obtain ⟨parts, each, rfl⟩ := inductionHypothesis.mp gathered
        exact ⟨part :: parts, List.Forall₂.cons own each, List.flatten_cons⟩
      · rintro ⟨parts, each, rfl⟩
        obtain ⟨part, others, own, eachOther, rfl⟩ := List.forall₂_cons_left_iff.mp each
        exact ⟨part, others.flatten, own, inductionHypothesis.mpr ⟨others, eachOther, rfl⟩,
          List.flatten_cons.symm⟩

/-- All filters make a contribution exactly if gathering the contributions gives a result. -/
theorem exists_contribute_iff
    {contribute : Filter -> Contribution}
    {filters : List Filter} :
    (∃ parts, Contribute contribute filters parts) ↔
      ∃ arguments, gather contribute filters = .ok arguments := by
  simp only [gather_eq_ok_iff]
  exact ⟨fun ⟨parts, each⟩ => ⟨_, parts, each, rfl⟩, fun ⟨_, parts, each, _⟩ => ⟨parts, each⟩⟩

/-- How a contribution fails: by a failure of its own, or because nothing is no list of
arguments. -/
inductive FailsWith : Contribution -> Failure -> Prop
  | raised (failure : Failure) : FailsWith (.error failure) failure
  | nothing : FailsWith (.ok none) (.wrongType (.items "NoneType"))

/-- A filter fails behind none but filters that contribute. -/
inductive FirstFailure (contribute : Filter -> Contribution) : List Filter -> Failure -> Prop
  | here {filter : Filter} {rest : List Filter} {failure : Failure}
      (fails : FailsWith (contribute filter) failure) :
      FirstFailure contribute (filter :: rest) failure
  | behind {filter : Filter} {part : List Argument} {rest : List Filter} {failure : Failure}
      (contributes : contribute filter = .ok (some part))
      (fails : FirstFailure contribute rest failure) :
      FirstFailure contribute (filter :: rest) failure

theorem FirstFailure.exists_fails
    {contribute : Filter -> Contribution}
    {filters : List Filter}
    {failure : Failure}
    (first : FirstFailure contribute filters failure) :
    ∃ filter ∈ filters, FailsWith (contribute filter) failure := by
  induction first with
  | here fails => exact ⟨_, List.mem_cons_self, fails⟩
  | behind _ _ inductionHypothesis =>
      obtain ⟨filter, member, fails⟩ := inductionHypothesis
      exact ⟨filter, List.mem_cons_of_mem _ member, fails⟩

/-- Joining contributions fails exactly with the failure of the first filter that fails. -/
theorem gather_eq_error_iff
    {contribute : Filter -> Contribution}
    {filters : List Filter}
    {failure : Failure} :
    gather contribute filters = .error failure ↔ FirstFailure contribute filters failure := by
  constructor
  · intro fails
    induction filters with
    | nil => cases fails
    | cons filter rest inductionHypothesis =>
        rw [gather] at fails
        match own : contribute filter with
        | .error raised =>
            rw [own] at fails
            obtain rfl := Except.error.inj fails
            exact .here (own ▸ .raised raised)
        | .ok none =>
            rw [own] at fails
            obtain rfl := Except.error.inj fails
            exact .here (own ▸ .nothing)
        | .ok (some part) =>
            rw [own] at fails
            cases others : gather contribute rest with
            | error raised =>
                rw [others] at fails
                obtain rfl := Except.error.inj fails
                exact .behind own (inductionHypothesis others)
            | ok arguments =>
                rw [others] at fails
                cases fails
  · intro first
    induction first with
    | here fails =>
        rw [gather]
        generalize contribute _ = contribution at fails ⊢
        cases fails <;> rfl
    | behind contributes _ inductionHypothesis =>
        rw [gather, contributes, inductionHypothesis]
        rfl

/-- What is joined depends on nothing but what each filter contributes. -/
theorem gather_congr
    {contribute contributeToo : Filter -> Contribution}
    {filters : List Filter}
    (same : ∀ filter ∈ filters, contribute filter = contributeToo filter) :
    gather contribute filters = gather contributeToo filters := by
  induction filters with
  | nil => rfl
  | cons filter rest inductionHypothesis =>
      have sameRest := inductionHypothesis fun other member =>
        same other (List.mem_cons_of_mem filter member)
      rw [gather, gather, same filter List.mem_cons_self, sameRest]

/-! ## Order and check -/

/-- The check against a release of the tool, which there is only if a release is given. -/
def releaseCheck (tool : Value) (strict : Bool) (filters : List Filter) : Report Unit :=
  if tool.isTrue then checkReleases tool strict filters else pure ()

/-- Filters that can be arranged are checked in that order. -/
theorem ordered_eq [BEq α]
    {filterOf : α -> Filter}
    {items arranged : List α}
    (arranges : arrange filterOf items = .ok arranged)
    (tool : Value)
    (strict : Bool) :
    ordered filterOf items tool strict =
      (releaseCheck tool strict (arranged.map filterOf)).andThen fun _ => pure arranged := by
  rw [ordered, arranges, releaseCheck]
  cases tool.isTrue <;> rfl

/-- Filters come in an order exactly if they are arranged in it and pass the check. -/
theorem ordered_outcome_eq_ok_iff [BEq α]
    {filterOf : α -> Filter}
    {items inOrder : List α}
    {tool : Value}
    {strict : Bool} :
    (ordered filterOf items tool strict).outcome = .ok inOrder ↔
      arrange filterOf items = .ok inOrder ∧
        (releaseCheck tool strict (inOrder.map filterOf)).outcome = .ok () := by
  cases arranges : arrange filterOf items with
  | error failure =>
      have failed : (ordered filterOf items tool strict).outcome = .error failure := by
        rw [ordered, arranges]
        rfl
      simp [failed]
  | ok arranged =>
      rw [ordered_eq arranges, Report.andThen_outcome_eq_ok_iff]
      constructor
      · rintro ⟨⟨⟩, checked, same⟩
        obtain rfl : arranged = inOrder := Except.ok.inj same
        exact ⟨rfl, checked⟩
      · rintro ⟨same, checked⟩
        obtain rfl : arranged = inOrder := Except.ok.inj same
        exact ⟨(), checked, rfl⟩

/-- Filters that can be arranged are compiled in that order, once they are checked. -/
theorem compile_eq [BEq α]
    {filterOf : α -> Filter}
    {items arranged : List α}
    (arranges : arrange filterOf items = .ok arranged)
    (format : Option Format)
    (tool : Value)
    (strict : Bool) :
    compile filterOf items format tool strict =
      (releaseCheck tool strict (arranged.map filterOf)).andThen fun _ =>
        Report.ofExcept
          (gather (fun filter => filter.fragment format) (arranged.map filterOf)) := by
  have split : compile filterOf items format tool strict =
      (ordered filterOf items tool strict).andThen fun inOrder =>
        Report.ofExcept (gather (fun filter => filter.fragment format)
          (inOrder.map filterOf)) := rfl
  rw [split, ordered_eq arranges, Report.andThen_assoc]
  simp only [Report.pure_andThen]

/-- Filters are compiled in the order in which they are emitted. -/
theorem compile_outcome [BEq α]
    (filterOf : α -> Filter)
    (items : List α)
    (format : Option Format)
    (tool : Value)
    (strict : Bool) :
    (compile filterOf items format tool strict).outcome =
      (ordered filterOf items tool strict).outcome >>= fun inOrder =>
        gather (fun filter => filter.fragment format) (inOrder.map filterOf) :=
  Report.andThen_outcome _ _

/-! ## Insertion orders -/

/-- Filters with integers for priorities come out in their stable arrangement.  Compiling them
joins what they contribute in that arrangement, once they pass the check.  Inserted in another
order that is the same within each priority, they compile to the same report: the same arguments
or failure, and the same notes. -/
theorem compile_in_stable_arrangement [BEq α]
    (filterOf : α -> Filter)
    (items : List α)
    (integral : ∀ item ∈ items, (filterOf item).HasIntegerPriority) :
    ∃ arranged, StablyArranges (fun item => (filterOf item).rank) items arranged ∧
      (∀ strict, ordered filterOf items .null strict = pure arranged) ∧
      (∀ tool strict, ordered filterOf items tool strict =
        (releaseCheck tool strict (arranged.map filterOf)).andThen fun _ => pure arranged) ∧
      (∀ format tool strict arguments,
        (compile filterOf items format tool strict).outcome = .ok arguments ↔
          (releaseCheck tool strict (arranged.map filterOf)).outcome = .ok () ∧
            ∃ parts, Contribute (fun filter => filter.fragment format) (arranged.map filterOf)
              parts ∧ parts.flatten = arguments) ∧
      ∀ others : List α,
        (∀ r, rankClass (fun item => (filterOf item).rank) r others =
          rankClass (fun item => (filterOf item).rank) r items) ->
        ∀ format tool strict,
          compile filterOf others format tool strict =
            compile filterOf items format tool strict := by
  obtain ⟨arranged, arranges, stably⟩ := arrange_of_integerPriorities integral
  refine ⟨arranged, stably, ?_, ordered_eq arranges, ?_, ?_⟩
  · intro strict
    exact ordered_eq arranges .null strict
  · intro format tool strict arguments
    rw [compile_eq arranges, Report.andThen_outcome_eq_ok_iff]
    simp only [Report.outcome_ofExcept, gather_eq_ok_iff]
    constructor
    · rintro ⟨⟨⟩, checked, joined⟩
      exact ⟨checked, joined⟩
    · rintro ⟨checked, joined⟩
      exact ⟨(), checked, joined⟩
  · intro others sameClasses format tool strict
    have othersIntegral : ∀ item ∈ others, (filterOf item).HasIntegerPriority := by
      intro item member
      exact integral item ((mem_iff_of_rankClass_eq sameClasses item).mp member)
    obtain ⟨arrangedToo, arrangesToo, stablyToo⟩ := arrange_of_integerPriorities othersIntegral
    rw [stably.eq_of_classes stablyToo sameClasses] at arrangesToo
    rw [compile_eq arrangesToo, compile_eq arranges]

/-- The filter that tags commands with a name. -/
def tag (settings : String × Int) : Filter :=
  ({ name := .text settings.1 } : Literal).toFilter { priority := .int settings.2 }

/-- Two filters of one priority come in the same order out of both lists. -/
theorem compile_reinserted_tags :
    (∀ item ∈ [("a", 5), ("b", -5), ("c", 0), ("d", 0)], (tag item).HasIntegerPriority) ∧
      (∀ r, rankClass (fun item => (tag item).rank) r [("c", 0), ("b", -5), ("d", 0), ("a", 5)] =
        rankClass (fun item => (tag item).rank) r [("a", 5), ("b", -5), ("c", 0), ("d", 0)]) ∧
      ∀ format tool strict,
        compile tag [("c", 0), ("b", -5), ("d", 0), ("a", 5)] format tool strict =
          compile tag [("a", 5), ("b", -5), ("c", 0), ("d", 0)] format tool strict := by
  have ranks (settings : String × Int) :
      (tag settings).HasIntegerPriority ∧ (tag settings).rank = settings.2 :=
    rank_of_priority rfl
  have integral : ∀ item ∈ [("a", 5), ("b", -5), ("c", 0), ("d", 0)],
      (tag item).HasIntegerPriority := fun item _ => (ranks item).1
  have sameClasses (r : Int) :
      rankClass (fun item => (tag item).rank) r [("c", 0), ("b", -5), ("d", 0), ("a", 5)] =
        rankClass (fun item => (tag item).rank) r [("a", 5), ("b", -5), ("c", 0), ("d", 0)] := by
    simp only [rankClass, ranks, List.filter_cons, List.filter_nil, decide_eq_true_eq]
    grind
  obtain ⟨_, _, _, _, _, reinserted⟩ := compile_in_stable_arrangement tag _ integral
  exact ⟨integral, sameClasses, reinserted _ sameClasses⟩

end Filter
end Filtergraph
