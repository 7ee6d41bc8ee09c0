import Crosswalk.Formula.Parse
import Crosswalk.Schema.Leaf
import Crosswalk.Schema.Record
import Crosswalk.Text.LetterCase

/-!
Settings of the library, and what logging is configured with.
-/

namespace Crosswalk

structure Settings where
  appName : String
  remoteUrl : String
  remoteKey : String
  logLevel : String
  logFormat : String
  recordMemory : Bool
  sampleSize : Int
  logLimit : Int
  /-- The most records in a batch; zero sets no bound. -/
  maxBatch : Int
  limits : Limits
  warningRatio : Binary64

namespace Settings

def standard : Settings where
  appName := "RecordBridge"
  remoteUrl := ""
  remoteKey := ""
  logLevel := "INFO"
  logFormat := "%(asctime)s - %(name)s - %(levelname)s - %(message)s"
  recordMemory := true
  sampleSize := 10
  logLimit := 20
  maxBatch := 50000
  limits := .standard
  warningRatio := .ofRatio false 9 10

def codec : Codec Settings :=
  Schema.codec
    (.field (.plain "app_name" .text standard.appName) <|
      .field (.plain "supabase_url" .text standard.remoteUrl) <|
      .field (.plain "supabase_key" .text standard.remoteKey) <|
      .field (.plain "log_level" .text standard.logLevel) <|
      .field (.plain "log_format" .text standard.logFormat) <|
      .field (.plain "record_memory_metrics" .bool standard.recordMemory) <|
      .field (.plain "execution_log_sample_size" .integer standard.sampleSize) <|
      .field (.plain "execution_log_default_limit" .integer standard.logLimit) <|
      .field (.plain "max_batch_size" .integer standard.maxBatch) <|
      .field (.plain "max_expression_length" .integer standard.limits.length) <|
      .field (.plain "max_expression_depth" .integer standard.limits.depth) <|
      .field (.plain "compliance_warning_ratio" .float standard.warningRatio) .done)
    (fun (a, u, k, l, f, r, s, ll, b, n, d, w, ()) => ⟨a, u, k, l, f, r, s, ll, b, ⟨n, d⟩, w⟩)
    (fun s => (s.appName, s.remoteUrl, s.remoteKey, s.logLevel, s.logFormat, s.recordMemory, s.sampleSize,
      s.logLimit, s.maxBatch, s.limits.length, s.limits.depth, s.warningRatio, ()))

/-- Whether the address and the key of the remote tables are set. -/
def hasRemote (s : Settings) : Bool := s.remoteUrl ≠ "" && s.remoteKey ≠ ""

/-- What the names of levels stand for; the format of a plain log has a name among them. -/
def logLevels : Table Value :=
  [("CRITICAL", .int 50), ("FATAL", .int 50), ("ERROR", .int 40), ("WARNING", .int 30),
    ("WARN", .int 30), ("INFO", .int 20), ("DEBUG", .int 10), ("NOTSET", .int 0),
    ("BASIC_FORMAT", .text "%(levelname)s:%(name)s:%(message)s")]

/-- The level that a text names, of any case; an unknown one is `INFO`. -/
def levelOf (name : String) : Value :=
  (Table.get? logLevels (String.ofList (Text.upper name.toList))).getD (.int 20)

/-- What logging is configured with, at a level or at the one of the settings. -/
def logging (s : Settings) (level : Option String) : Table Value :=
  let level := (level.filter (· ≠ "")).getD s.logLevel
  [("level", levelOf level), ("format", .text s.logFormat)]

end Settings

end Crosswalk
