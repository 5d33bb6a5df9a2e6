import PartitionScan.Command.Options
import PartitionScan.Command.Output
import PartitionScan.Command.Report
import PartitionScan.Language.Partitioning
import PartitionScan.Registry
import PartitionScan.Scan.Scanner
import PartitionScan.Settings

/-!
# Running a command

A command answers a query on one file. The file is partitioned by the language that the user names
or that its extension tells, and with a language only code is scanned unless the user says
otherwise.
-/
namespace PartitionScan.Command

structure Environment where
  read : String → Option ByteArray
  ownSettings : Option ByteArray

structure Session where
  options : Options
  settings : Settings
  buffer : Buffer
  map : Option PartitionMap
  filter : Filter

/-- The settings in force. The user's own settings file is passed over if it cannot be used. -/
def loadSettings (env : Environment) (o : Options) : Except Fault Settings :=
  match o.config with
  | some path => (Buffer.readText (env.read path)).bind Settings.ofToml
  | none =>
    match (Buffer.readText env.ownSettings).bind Settings.ofToml with
    | .ok settings => .ok settings
    | .error _ => .ok {}

/-- The language of the file: the one named, or else the one of the extension. -/
def chooseLanguage (reg : Registry) (o : Options) : Except Fault (Option Language) :=
  match o.language with
  | some name =>
    match reg.language? name with
    | some lang => .ok (some lang)
    | none => .error (.unknownLanguage name)
  | none => .ok (reg.languageOf o.file)

def chooseFilter (partition : Option String) (hasLanguage : Bool) : Filter :=
  match partition with
  | some "any" => .any
  | some "default" => .defaultOnly
  | some kind => .only kind
  | none => if hasLanguage then .defaultOnly else .any

/-- Loads settings and file, in this order, and partitions the file. -/
def Session.load (env : Environment) (o : Options) : Except Fault Session := do
  let settings ← loadSettings env o
  let buffer ← Buffer.ofFile o.file (env.read o.file)
  let language ← chooseLanguage (Registry.builtin.addAll settings.languages) o
  let map ← language.mapM (·.partition buffer.document)
  return { options := o, settings, buffer, map
           filter := chooseFilter o.partition language.isSome }

namespace Session

def classifier (s : Session) : Classifier :=
  (s.map.map PartitionMap.classifier).getD .whole

def report (s : Session) : Report :=
  { buffer := s.buffer, tabWidth := s.settings.tabWidth }

def ask {α : Type} (s : Session) (q : Scan.Query α) : Except Fault α :=
  ((Scan.Scanner.ofDocument s.classifier s.buffer.document s.filter).ask q).map (·.1)

def firstOffset (s : Session) : Except Fault Nat :=
  (s.options.firstArgument.mapError Fault.usage).bind s.report.offset

def column (n : Nat) : String :=
  let digits := toString n
  "".pushn ' ' (6 - digits.length) ++ digits

def partitions (s : Session) : Output :=
  let all : Except Fault (List Partition) :=
    match s.map with
    | some map => .ok map.partitions
    | none => (s.classifier.partitionAt s.buffer.document 0).map ([·])
  Output.after all fun ps => Output.concat (ps.map fun p =>
    .line ((s.report.location p.offset).map fun place =>
      column p.offset ++ " " ++ column p.length ++ "  " ++ place ++ "  " ++ p.kind))

def findPeer (s : Session) (offset : Nat) : Except Fault (Option Nat) := do
  let c ← s.buffer.charAt offset
  match CharPair.find? s.settings.pairs c with
  | none => .error (.usage (.noPair c offset))
  | some pair =>
    match decide (c = pair.opening), s.settings.escape with
    | true, some escape => s.ask (Scan.closingPeerEscaped offset pair escape)
    | true, none => s.ask (Scan.closingPeer offset pair)
    | false, some escape => s.ask (Scan.openingPeerEscaped offset pair escape)
    | false, none => s.ask (Scan.openingPeer offset pair)

def peer (s : Session) : Output :=
  .line (do
    match ← s.findPeer (← s.firstOffset) with
    | some found => s.report.location found
    | none => return "no peer")

def blank (s : Session) : Output :=
  Output.after s.firstOffset fun offset =>
    let region := do
      match ← s.ask (Scan.blankRegion offset s.settings.lineBreakIsBlank) with
      | some g => s.report.region g
      | none => return "no blank region"
    (Output.line region).andThen
      (.print ((s.ask (Scan.isBlankLine offset)).map fun isBlank =>
        if isBlank then "line is blank\n" else ""))

def word (s : Session) : Output :=
  .line (do
    match ← s.ask (Scan.commonWord (← s.firstOffset)) with
    | some g => return (← s.report.region g) ++ "  " ++ String.ofList (← s.buffer.textOf g)
    | none => return "no word")

/-- The lines from one place to another, which is the same place if it is not given. -/
def block (s : Session) : Output :=
  let found : Except Fault Region := do
    let start ← s.firstOffset
    let finish ←
      match s.options.arguments.drop 1 with
      | argument :: _ => s.report.offset argument
      | [] => .ok start
    Scan.textBlock s.buffer.document start finish
  Output.after found fun g =>
    let lines := do
      let first ← Scan.firstLine s.buffer.document g
      let last ← Scan.lastLine s.buffer.document g
      return "lines " ++ toString (first + 1) ++ "-" ++ toString (last + 1)
    (Output.line lines).andThen (.print ((s.buffer.textOf g).map String.ofList))

def count (s : Session) : Output :=
  .line (do
    let argument ← s.options.firstArgument.mapError Fault.usage
    match argument.toList with
    | [c] => return toString (← s.ask (Scan.count 0 s.buffer.length c))
    | _ => .error (.usage (.notOneChar argument)))

def execute (s : Session) : Output :=
  match s.options.command with
  | "partitions" => s.partitions
  | "peer" => s.peer
  | "blank" => s.blank
  | "word" => s.word
  | "block" => s.block
  | "count" => s.count
  | other => { fault := some (.usage (.unknownCommand other)) }

end Session

def version : String := "heurscan 0.1.0"

def help : String :=
  String.join ([version ++ " - heuristic token scanner",
    "",
    "Usage: heurscan [OPTIONS] FILE COMMAND [ARGS]",
    "",
    "Options:",
    "  -c, --config PATH     Read settings from PATH instead of ~/.heurscan.toml",
    "  -l, --language NAME   Partition as NAME instead of detecting by extension",
    "  -p, --partition TYPE  Scan only TYPE partitions ('any', 'default' or a type)",
    "  -h, --help            Show this help message",
    "  -V, --version         Show version information",
    "",
    "Commands (POS is an offset or LINE:COL):",
    "  partitions            List the partitions of FILE",
    "  peer POS              Find the peer of the bracket at POS",
    "  blank POS             Find the blank region at POS",
    "  word POS              Find the word at POS",
    "  block POS [POS]       Show the lines spanned by the positions",
    "  count CHAR            Count CHAR in the scanned partitions",
    "",
    "Set RUST_LOG=debug for diagnostics"].map (· ++ "\n"))

def run (env : Environment) (arguments : List String) : Output :=
  match arguments with
  | "--help" :: _ => { stdout := help }
  | "-h" :: _ => { stdout := help }
  | "--version" :: _ => { stdout := version ++ "\n" }
  | "-V" :: _ => { stdout := version ++ "\n" }
  | _ =>
    Output.after ((Options.read arguments).mapError Fault.usage) fun o =>
      Output.after (Session.load env o) Session.execute

def filesOf (arguments : List String) : List String :=
  match Options.read arguments with
  | .ok o => o.file :: o.config.toList
  | .error _ => []

end PartitionScan.Command
