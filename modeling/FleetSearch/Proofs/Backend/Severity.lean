import Mathlib.Order.MinMax
import FleetSearch.Backend.Health

/-! The health of a node is that of the worst of its checks, so neither their order nor their number
counts. A search through the checks that ends at the first sign of maintenance tells the same. -/

namespace FleetSearch.Backend

variable {check : HealthCheck} {checks others : List HealthCheck} {bound : Health}

namespace Health

theorem rank_injective : Function.Injective rank := by
  intro left right
  cases left <;> cases right <;> decide

/-- From good to bad. -/
instance : LinearOrder Health := LinearOrder.lift' rank rank_injective

theorem passing_le (health : Health) : passing ≤ health := by
  cases health <;> decide

theorem le_maintenance (health : Health) : health ≤ maintenance := by
  cases health <;> decide

theorem worse_eq_max (left right : Health) : left.worse right = max left right := by
  cases left <;> cases right <;> decide

theorem status_injective : Function.Injective status := by
  intro left right
  cases left <;> cases right <;> decide

theorem foldl_worse (found : Health) (checks : List HealthCheck) :
    checks.foldl (fun found check => found.worse check.health) found =
      max found (ofChecks checks) := by
  induction checks generalizing found with
  | nil => exact (max_eq_left (passing_le found)).symm
  | cons check rest ih =>
    have whole : ofChecks (check :: rest) = max (passing.worse check.health) (ofChecks rest) := ih _
    rw [List.foldl_cons, ih, whole, worse_eq_max, worse_eq_max, max_eq_right (passing_le _),
      max_assoc]

theorem ofChecks_cons (check : HealthCheck) (checks : List HealthCheck) :
    ofChecks (check :: checks) = max check.health (ofChecks checks) := by
  rw [ofChecks, List.foldl_cons, foldl_worse, worse_eq_max, max_eq_right (passing_le _)]

theorem ofChecks_append (checks others : List HealthCheck) :
    ofChecks (checks ++ others) = max (ofChecks checks) (ofChecks others) := by
  rw [ofChecks, List.foldl_append, foldl_worse]
  rfl

theorem ofChecks_le_iff : ofChecks checks ≤ bound ↔ ∀ check ∈ checks, check.health ≤ bound := by
  induction checks with
  | nil => simpa [ofChecks] using passing_le bound
  | cons check rest ih => rw [ofChecks_cons, max_le_iff, ih, List.forall_mem_cons]

theorem ofChecks_mono (among : ∀ check ∈ checks, check ∈ others) :
    ofChecks checks ≤ ofChecks others :=
  ofChecks_le_iff.mpr fun check member => ofChecks_le_iff.mp le_rfl check (among check member)

end Health

namespace HealthCheck

/-- The status of a node from one check after the other. A check that marks maintenance settles it;
of the others it is remembered whether a warning or a critical one was among them. -/
def survey (warned alarmed : Bool) : List HealthCheck → String
  | [] => if alarmed then "critical" else if warned then "warning" else "passing"
  | check :: rest =>
    if check.marksMaintenance then "maintenance"
    else if check.status = "warning" then survey true alarmed rest
    else if check.status = "critical" then survey warned true rest
    else survey warned alarmed rest

/-- What is remembered of checks, none of which marks maintenance. -/
def remembered (warned alarmed : Bool) : Health :=
  if alarmed then .critical else if warned then .warning else .passing

theorem health_of_unknown (unmarked : check.marksMaintenance = false)
    (mild : check.status ≠ "warning") (harmless : check.status ≠ "critical") :
    check.health = .passing := by
  simp [health, unmarked, mild, harmless]

/-- The search knows the worst of the checks that it has seen. -/
theorem survey_eq (warned alarmed : Bool) (checks : List HealthCheck) :
    survey warned alarmed checks =
      (max (remembered warned alarmed) (Health.ofChecks checks)).status := by
  induction checks generalizing warned alarmed with
  | nil =>
    rw [Health.ofChecks, List.foldl_nil, max_eq_left (Health.passing_le _)]
    cases warned <;> cases alarmed <;> rfl
  | cons check rest ih =>
    rw [survey, Health.ofChecks_cons, ← max_assoc]
    split
    · rename_i marked
      have worst : check.health = .maintenance := if_pos marked
      rw [worst, max_eq_right (Health.le_maintenance _), max_eq_left (Health.le_maintenance _)]
      rfl
    · rename_i unmarked
      rw [Bool.not_eq_true] at unmarked
      split
      · rename_i mild
        have own : check.health = .warning := by simp [health, unmarked, mild]
        have learnt : max (remembered warned alarmed) .warning = remembered true alarmed := by
          cases warned <;> cases alarmed <;> decide
        rw [ih, own, learnt]
      · rename_i mild
        split
        · rename_i harmful
          have own : check.health = .critical := by simp [health, unmarked, harmful]
          have learnt : max (remembered warned alarmed) .critical = remembered warned true := by
            cases warned <;> cases alarmed <;> decide
          rw [ih, own, learnt]
        · rename_i harmless
          rw [ih, health_of_unknown unmarked mild harmless, max_eq_left (Health.passing_le _)]

end HealthCheck

namespace Health

/-- The health of checks in two lists is the worse of both. So their order and how often one is
repeated do not count, one more check makes nothing better, and a check with a word that is not
known, which does not mark maintenance, changes nothing. A search through the checks that remembers
warnings and critical checks, and ends where maintenance is marked, comes to the same status. -/
theorem ofChecks_worst (checks others : List HealthCheck) :
    ((passing < warning ∧ warning < critical ∧ critical < maintenance) ∧
      Function.Injective status) ∧
    ofChecks [] = passing ∧
    ofChecks (checks ++ others) = max (ofChecks checks) (ofChecks others) ∧
    (∀ same : List HealthCheck, (∀ check, check ∈ same ↔ check ∈ checks) →
      ofChecks same = ofChecks checks) ∧
    (∀ check, ofChecks (checks ++ others) ≤ ofChecks (checks ++ check :: others)) ∧
    (∀ check : HealthCheck, check.marksMaintenance = false → check.status ≠ "warning" →
      check.status ≠ "critical" →
        ofChecks (checks ++ check :: others) = ofChecks (checks ++ others)) ∧
    HealthCheck.survey false false checks = (ofChecks checks).status := by
  refine ⟨⟨by decide, status_injective⟩, rfl, ofChecks_append checks others, ?_, ?_, ?_, ?_⟩
  · intro same members
    exact le_antisymm (ofChecks_mono fun check => (members check).mp)
      (ofChecks_mono fun check => (members check).mpr)
  · intro check
    refine ofChecks_mono fun other member => ?_
    rcases List.mem_append.mp member with early | late
    · exact List.mem_append_left _ early
    · exact List.mem_append_right _ (List.mem_cons_of_mem _ late)
  · intro check unmarked mild harmless
    rw [ofChecks_append, ofChecks_append, ofChecks_cons,
      HealthCheck.health_of_unknown unmarked mild harmless, max_eq_right (passing_le _)]
  · rw [HealthCheck.survey_eq, HealthCheck.remembered]
    exact congrArg status (max_eq_right (passing_le _))

def disk : HealthCheck := { id := "disk", status := "critical" }

def load : HealthCheck := { id := "load", status := "warning" }

def mail : HealthCheck := { id := "mail", status := "unknown" }

/-- A service in maintenance, which its own status does not tell. -/
def service : HealthCheck := { id := "_service_maintenance:web", status := "passing" }

theorem ofChecks_worst_disk :
    (∀ check, check ∈ [load, disk, load] ↔ check ∈ [disk, load]) ∧
      mail.marksMaintenance = false ∧ mail.status ≠ "warning" ∧ mail.status ≠ "critical" ∧
      ofChecks [load, disk, load] = ofChecks [disk, load] ∧
      ofChecks [disk, load, mail, service] = ofChecks [disk, load, service] ∧
      ofChecks [disk, load, service] = maintenance ∧
      HealthCheck.survey false false [disk, load] = "critical" := by
  have members : ∀ check, check ∈ [load, disk, load] ↔ check ∈ [disk, load] := by
    intro check
    simp only [List.mem_cons, List.not_mem_nil, or_false]
    grind
  have known : mail.marksMaintenance = false ∧ mail.status ≠ "warning" ∧
      mail.status ≠ "critical" := by decide
  obtain ⟨_, _, both, reordered, _, unknown, searched⟩ := ofChecks_worst [disk, load] [service]
  refine ⟨members, known.1, known.2.1, known.2.2, reordered _ members,
    unknown mail known.1 known.2.1 known.2.2, both, searched⟩

end Health

end FleetSearch.Backend
