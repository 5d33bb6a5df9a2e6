import PartitionScan.Text.Quoted

/-!
# Faults

Everything that can go wrong, by cause, and the sentence that tells it to the user.
-/
namespace PartitionScan

inductive SettingFault where
  | malformed
  | escapeNotText
  | notOneChar (key text : String)
  | pairsNotArray
  | pairNotText
  | pairNotTwoChars (text : String)
  | languageNotArray
  | languageNotTable
  | missingText (owner key : String)
  | tooManyBlocks (language : String)
  deriving DecidableEq, Repr

inductive PatternFault where
  | malformed
  | tooLarge
  deriving DecidableEq, Repr

inductive UsageFault where
  | incomplete
  | missingValue (option : String)
  | unknownOption (option : String)
  | missingArgument (command : String)
  | badPosition (text : String)
  | noPair (char : Char) (offset : Nat)
  | notOneChar (text : String)
  | unknownCommand (command : String)
  deriving DecidableEq, Repr

/-- Why an operation has no result. -/
inductive Fault where
  | badLocation (offset length : Nat)
  | badLine (line count : Nat)
  | staleMap (covered length : Nat)
  | unclassified
  | unknownLanguage (name : String)
  | badPattern (rule : String) (cause : PatternFault)
  | setting (cause : SettingFault)
  | usage (cause : UsageFault)
  | fileAccess
  | noFileName
  | notConfigured
  | boundBeyondEnd (bound length : Nat)
  | overflow
  deriving DecidableEq, Repr

def SettingFault.message : SettingFault → String
  | .malformed => "TOML parse error"
  | .escapeNotText => "escape-char must be a string"
  | .notOneChar key text => s!"{key} must be a single character, got " ++ Text.quoted text
  | .pairsNotArray => "pairs must be an array"
  | .pairNotText => "pair must be a string"
  | .pairNotTwoChars text => "pair must be two characters, got " ++ Text.quoted text
  | .languageNotArray => "language must be an array of tables"
  | .languageNotTable => "language entry must be a table"
  | .missingText owner key => s!"{owner} needs a string '{key}'"
  | .tooManyBlocks language => s!"language {language} has too many block rules"

def PatternFault.message : PatternFault → String
  | .malformed => "regex parse error"
  | .tooLarge => "Compiled regex exceeds size limit of 10485760 bytes."

def UsageFault.message : UsageFault → String
  | .incomplete => "Usage: heurscan [OPTIONS] FILE COMMAND [ARGS]"
  | .missingValue option => s!"{option} needs a value"
  | .unknownOption option => s!"Unknown option: {option}"
  | .missingArgument command => s!"{command} needs an argument"
  | .badPosition text => s!"Bad position: {text}"
  | .noPair char offset => "No pair for " ++ Text.quotedChar char ++ s!" at {offset}"
  | .notOneChar text => "count needs one character, got " ++ Text.quoted text
  | .unknownCommand command => s!"Unknown command: {command}"

def Fault.message : Fault → String
  | .badLocation offset length => s!"Offset {offset} out of range (length {length})"
  | .badLine line count => s!"Line {line} out of range ({count} lines)"
  | .staleMap covered length =>
    s!"Partition map covers {covered} characters, document has {length}"
  | .unclassified => "No classification"
  | .unknownLanguage name => s!"Unknown language: {name}"
  | .badPattern rule cause => s!"Invalid pattern in rule '{rule}': " ++ cause.message
  | .setting cause => "Config error: " ++ cause.message
  | .usage cause => cause.message
  | .fileAccess => "I/O error"
  | .noFileName => "I/O error: No filename set"
  | .notConfigured => "HeuristicScanner used before configure()"
  | .boundBeyondEnd bound length => s!"forward bound {bound} beyond length {length}"
  | .overflow => "attempt to add with overflow"

end PartitionScan
