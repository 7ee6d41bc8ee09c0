import Crosswalk.Schema.Leaf
import Crosswalk.Schema.Record

/-!
What an employee and the employer have contributed in a plan year so far, in cents.
-/

namespace Crosswalk.Contribution

structure Totals where
  elective : Int
  employer : Int

namespace Totals

def zero : Totals := ⟨0, 0⟩

def additions (t : Totals) : Int := t.elective + t.employer

def codec : Codec Totals :=
  Schema.codec
    (.field (.defaulted "employee_elective" .integer 0) <|
      .field (.defaulted "employer_contributions" .integer 0) .done)
    (fun (e, m, ()) => ⟨e, m⟩)
    (fun t => (t.elective, t.employer, ()))

end Totals

end Crosswalk.Contribution
