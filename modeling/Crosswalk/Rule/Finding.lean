import Crosswalk.Rule.Basic

/-!
Findings about one record, and the verdict that collects them: valid as long as no finding is an error.
-/

namespace Crosswalk

structure Finding where
  field : String
  code : String
  message : String
  value : Value
  severity : Severity

structure Verdict where
  valid : Bool
  errors : List Finding
  warnings : List Finding

def Finding.codec : Codec Finding :=
  Schema.codec
    (.field (.required "field" .text) <|
      .field (.required "code" .text) <|
      .field (.required "message" .text) <|
      .field (Mapping.anyOrNull "value") <|
      .field (.defaulted "severity" Severity.codec .error) .done)
    (fun (f, c, m, v, s, ()) => ⟨f, c, m, v, s⟩)
    (fun f => (f.field, f.code, f.message, f.value, f.severity, ()))

namespace Verdict

def codec : Codec Verdict :=
  Schema.codec
    (.field (.defaulted "valid" .bool true) <|
      .field (.defaulted "errors" (.list Finding.codec) []) <|
      .field (.defaulted "warnings" (.list Finding.codec) []) .done)
    (fun (v, e, w, ()) => ⟨v, e, w⟩)
    (fun r => (r.valid, r.errors, r.warnings, ()))

def empty : Verdict := ⟨true, [], []⟩

/-- The verdict with one more finding. -/
def add (v : Verdict) (f : Finding) : Verdict :=
  match f.severity with
  | .error => { v with valid := false, errors := v.errors ++ [f] }
  | .warning => { v with warnings := v.warnings ++ [f] }

/-- The verdict of some findings. -/
def ofFindings (fs : List Finding) : Verdict := fs.foldl add empty

end Verdict

end Crosswalk
