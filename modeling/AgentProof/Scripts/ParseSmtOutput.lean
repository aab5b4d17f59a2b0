import AgentProof.Sdk.ProofRegistry

/-!
# The solver's output as artifacts

`scripts/parse-smt-output.mjs`: two logs of the model checker become one artifact
for each property and a summary.
-/

namespace AgentProof

namespace Scripts

open Js Sdk

/-- A property and the assertion that states it. -/
def PROPERTIES : List (Text × Text) := [
  ("MAX_TRANSFER".toList, "amount <= maxTransaction".toList),
  ("DAILY_SPEND".toList, "spent <= dailyLimit".toList)]

/-- `log.includes(phrase)`. -/
def includes (log phrase : Text) : Bool := log.tails.any phrase.isPrefixOf

/-- `/phrase/i.test(log)`. -/
def mentions (log : Text) (phrase : String) : Bool :=
  includes (toLowerCase log) (toLowerCase phrase.toList)

/-- `/CHC: \d+ verification condition\(s\) proved safe/i.test(log)`. -/
def reportsProof (log : Text) : Bool :=
  (toLowerCase log).tails.any fun rest =>
    let count := rest.drop 5
    "chc: ".toList.isPrefixOf rest && count.takeWhile isDigit ≠ [] &&
      " verification condition(s) proved safe".toList.isPrefixOf (count.dropWhile isDigit)

def classify (log needle : Text) : Text :=
  let violated := mentions log "Assertion violation happens here" &&
    includes log ((needle.splitOn ' ').headD [])
  let unproved := mentions log "could not be proved" || mentions log "might happen" ||
    mentions log "Assertion checker does not yet implement"
  let proved := reportsProof log
  let engineRan := !mentions log "CHC analysis was not possible"
  if violated then "COUNTEREXAMPLE".toList
  else if unproved then "UNPROVEN".toList
  else if !engineRan || !proved then "NOT_RUN".toList
  else "PROVEN".toList

/-- Up to `n` characters, as few as possible, before an empty line or the end. -/
def paragraph : Nat → Text → Option Text
  | 0, rest => if rest = [] ∨ rest.take 2 = ['\n', '\n'] then some [] else none
  | n + 1, rest =>
      if rest = [] ∨ rest.take 2 = ['\n', '\n'] then some []
      else match rest with
        | [] => none
        | c :: rest => (paragraph n rest).map (c :: ·)

/-- What may follow `Counterexample:`, from the last line break of the white space on. -/
def afterBreaks (rest : Text) : List Text :=
  let blank := (rest.takeWhile isSpace).length
  ((List.range blank).reverse.filter fun i => rest[i]? = some '\n').map fun i => rest.drop (i + 1)

/-- `/Counterexample:\s*\n([\s\S]{0,1200}?)(?:\n\n|$)/`, its group trimmed. -/
def extractCounterexample (log : Text) : Option Text :=
  let header := "Counterexample:".toList
  let found := log.tails.findSome? fun rest =>
    if header.isPrefixOf rest then (afterBreaks (rest.drop header.length)).findSome? (paragraph 1200)
    else none
  found.map trim

/-- The options of the script; a time that is no finite number prints as `null`. -/
structure SmtOptions where
  provenLog : Text
  brokenLog : Text
  elapsedMs : Option Rat
  generatedAt : Text

def SmtOptions.solverTimeMs (o : SmtOptions) : Json := o.elapsedMs.elim .null .num

def reference (o : SmtOptions) (property needle : Text) : Json := .obj [
  ("property".toList, .str property),
  ("status".toList, .str (classify o.provenLog needle)),
  ("tool".toList, .str "solc-smtchecker".toList),
  ("solverTimeMs".toList, o.solverTimeMs),
  ("artifactPath".toList, .str ("proofs/".toList ++ property ++ ".json".toList))]

def references (o : SmtOptions) : List (Text × Json) :=
  PROPERTIES.map fun (property, needle) => (property, reference o property needle)

def brokenDetected (o : SmtOptions) : Bool := mentions o.brokenLog "Assertion violation"

/-- The flag of the summary. -/
def allProven (o : SmtOptions) : Bool :=
  ((references o).all fun entry => ProofRegistry.isProven entry.2) && brokenDetected o

def summary (o : SmtOptions) : Json := .obj [
  ("generatedAt".toList, .str o.generatedAt),
  ("solverTimeMs".toList, o.solverTimeMs),
  ("properties".toList, .arr ((references o).map Prod.snd)),
  ("negativeControl".toList, .obj ([
    ("contract".toList, .str "PolicySpecBroken".toList),
    ("counterexampleProduced".toList, .bool (brokenDetected o))] ++
    ((extractCounterexample o.brokenLog).map fun text =>
      ("counterexample".toList, Json.str text)).toList)),
  ("allProven".toList, .bool (allProven o))]

/-- The files a run writes to the directory it is given. -/
def writeFiles (o : SmtOptions) (directory : Directory) : Directory :=
  let withArtifacts := (references o).foldl (fun directory (property, reference) =>
    directory.set (property ++ ".json".toList) (some reference)) directory
  withArtifacts.set ProofRegistry.SUMMARY (some (summary o))

/-- The exit code, and the directory afterwards. -/
def parseSmtOutput (o : SmtOptions) (directory : Directory) : Nat × Directory :=
  if mentions o.provenLog "No SMT solver available" then (2, directory)
  else (if brokenDetected o then 0 else 1, writeFiles o directory)

end Scripts

end AgentProof
