import AgentProof.Lib.OrderedMap
import AgentProof.Sdk.Json

/-!
# The proofs directory

`proofs/ProofRegistry.ts`.  A file is what `JSON.parse` makes of its text, or
nothing where reading or parsing it throws; a directory lists its files in some
order.  The table of properties is an object, so a name that every object
inherits leads to something too.
-/

namespace AgentProof

namespace Sdk

open Js Json

/-- File names and what the files hold. -/
abbrev Directory := OrderedMap Text (Option Json)

mutual

/-- `String(v)`, as far as it may be a key of an object: a numeral is none, and
neither is a list with commas in it. -/
def keyName : Json → Except JsError (Option Text)
  | .null => .ok (some "null".toList)
  | .bool b => .ok (some (if b then "true".toList else "false".toList))
  | .num _ => .ok none
  | .str s => .ok (some s)
  | .arr elements => elementName elements
  | .obj fields =>
      if (fields.lookup "toString".toList).isSome then
        typeError "Cannot convert object to primitive value".toList
      else .ok (some "[object Object]".toList)

/-- The elements of an array, joined. -/
def elementName : List Json → Except JsError (Option Text)
  | [] => .ok (some [])
  | [.null] => .ok (some [])
  | [v] => keyName v
  | v :: w :: rest => do
      let _ ← keyName v
      let _ ← elementName (w :: rest)
      .ok none

end

def PROPERTY_TO_POLICY : OrderedMap Text Text where
  entries := [
    ("MAX_TRANSFER".toList, "maxTransaction".toList),
    ("DAILY_SPEND".toList, "dailySpend".toList)]
  nodup := by decide

/-- The names of `Object.prototype`. -/
def OBJECT_PROTOTYPE : List Text := [
  "constructor".toList, "__defineGetter__".toList, "__defineSetter__".toList,
  "hasOwnProperty".toList, "__lookupGetter__".toList, "__lookupSetter__".toList,
  "isPrototypeOf".toList, "propertyIsEnumerable".toList, "toString".toList, "valueOf".toList,
  "__proto__".toList, "toLocaleString".toList]

/-- A key of `byPolicy`: a policy, or what every object inherits under a name. -/
inductive PolicyKey
  | policy (name : Text)
  | inherited (name : Text)
  deriving DecidableEq, Repr

/-- `PROPERTY_TO_POLICY[name]`. -/
def policyNamed (name : Text) : Option PolicyKey :=
  match PROPERTY_TO_POLICY.get name with
  | some policy => some (.policy policy)
  | none => if name ∈ OBJECT_PROTOTYPE then some (.inherited name) else none

/-- `PROPERTY_TO_POLICY[reference.property]`. -/
def policyOf (reference : Json) : Except JsError (Option PolicyKey) := do
  match ← reference.property "property".toList with
  | none => .ok none
  | some property =>
      let name ← keyName property
      .ok (name.bind policyNamed)

structure ProofRegistry where
  byPolicy : OrderedMap PolicyKey Json
  negativeControl : Option Json

namespace ProofRegistry

/-- One turn of the constructor's loop. -/
def addReference (byPolicy : OrderedMap PolicyKey Json) (reference : Json) :
    Except JsError (OrderedMap PolicyKey Json) := do
  match ← policyOf reference with
  | some policy => .ok (byPolicy.set policy reference)
  | none => .ok byPolicy

/-- The constructor. -/
def construct (references : List Json) (negativeControl : Option Json) :
    Except JsError ProofRegistry := do
  let byPolicy ← references.foldlM addReference .empty
  .ok ⟨byPolicy, negativeControl⟩

/-- The reference of a property nobody has checked. -/
def notRunReference (property : Text) : Json := .obj [
  ("property".toList, .str property),
  ("status".toList, .str "NOT_RUN".toList),
  ("tool".toList, .str "solc-smtchecker".toList),
  ("solverTimeMs".toList, .num 0),
  ("artifactPath".toList, .str ("proofs/".toList ++ property ++ ".json".toList))]

def notRun : ProofRegistry :=
  match construct (PROPERTY_TO_POLICY.keys.map notRunReference) none with
  | .ok registry => registry
  | .error _ => ⟨.empty, none⟩

def SUMMARY : Text := "summary.json".toList

/-- The files that are read as references. -/
def isArtifact (file : Text) : Bool := ".json".toList.isSuffixOf file && file ≠ SUMMARY

/-- The artifacts of a directory, in its order. -/
def artifacts (directory : Directory) : List (Option Json) :=
  (directory.entries.filter fun file => isArtifact file.1).map Prod.snd

/-- `JSON.parse(await readFile(file))`. -/
def parsed : Option Json → Except JsError Json
  | some v => .ok v
  | none => .error ⟨"SyntaxError".toList, "Unexpected token".toList⟩

/-- `summary.negativeControl`; whatever throws leaves it undefined. -/
def control (directory : Directory) : Option Json :=
  match directory.get SUMMARY with
  | some (some summary) => (summary.property "negativeControl".toList).toOption.join
  | _ => none

/-- `load`, for a directory that may be missing. -/
def load (directory : Option Directory) : ProofRegistry :=
  match directory with
  | none => notRun
  | some directory =>
      let loaded : Except JsError ProofRegistry := do
        let references ← (artifacts directory).mapM parsed
        if references.length > 0 then construct references (control directory)
        else .ok notRun
      match loaded with
      | .ok registry => registry
      | .error _ => notRun

def all (registry : ProofRegistry) : List Json := registry.byPolicy.entries.map Prod.snd

/-- `r.status === 'PROVEN'`. -/
def isProven (reference : Json) : Bool :=
  match reference.field "status".toList with
  | some (.str status) => status = "PROVEN".toList
  | _ => false

def allProven (registry : ProofRegistry) : Bool :=
  registry.all.length > 0 && registry.all.all isProven

end ProofRegistry

end Sdk

end AgentProof
