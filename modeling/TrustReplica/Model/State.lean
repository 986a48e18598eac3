import TrustReplica.Model.Opinion

/-! What is known of a TMI at one version: its trust graph, the opinions on its relationships and the
    required levels of trust (`TmiState`), and the actual levels computed for it (`AtlBundle`).
    Each type has its reader and its writer beside it. -/

namespace TrustReplica

/-- The nodes that a node of a trust graph points to. -/
structure Adjacency where
  source : String
  targets : List String

/-- A named operator and the directed edges of a graph. -/
structure TrustGraph where
  operator : String
  adjacency : List Adjacency

/-- A node's opinion on another. -/
structure Relationship where
  source : String
  destination : String
  opinion : Opinion

/-- One snapshot of a TMI; it does not change once it is stored. -/
structure TmiState where
  version : Version
  fingerprint : UInt64
  graph : TrustGraph
  values : NameMap (List Relationship)
  rtls : NameMap Opinion

/-- The actual trustworthiness levels of a TMI at one version. -/
structure AtlBundle where
  tmiId : String
  version : Version
  opinions : NameMap Opinion
  probabilities : NameMap Float
  decisions : NameMap Float

open Json

namespace Adjacency

/-- An entry of the adjacency list as a record. -/
def toJson (a : Adjacency) : Json :=
  .object [("sourceNode", .text a.source), ("targetNodes", .array (a.targets.map .text))]

/-- Reads an entry of the adjacency list. -/
def read (v : Json) : Option Adjacency :=
  if v.isRecord 2 then do
    let source ← required readText (v.member 0 "sourceNode")
    let targets ← defaulted [] (readList readText) (v.member 1 "targetNodes")
    return ⟨source, targets⟩
  else none

/-- The shape of an entry of the adjacency list. -/
def shape : Shape := .record [("sourceNode", false, .text), ("targetNodes", true, .list .text)]

end Adjacency

namespace TrustGraph

/-- The graph of a TMI that says nothing of it. -/
def empty : TrustGraph := ⟨"", []⟩

/-- A trust graph as a record. -/
def toJson (g : TrustGraph) : Json :=
  .object [("adjacency_list", .array (g.adjacency.map Adjacency.toJson)), ("operator", .text g.operator)]

/-- Reads a trust graph. -/
def read (v : Json) : Option TrustGraph :=
  if v.isRecord 2 then do
    let operator ← defaulted "" readText (v.member 0 "operator")
    let adjacency ← defaulted [] (readList Adjacency.read) (v.member 1 "adjacency_list")
    return ⟨operator, adjacency⟩
  else none

/-- The shape of a trust graph. -/
def shape : Shape :=
  .record [("operator", true, .text), ("adjacency_list", true, .list Adjacency.shape)]

/-- Trust graphs in JSON. -/
def format : Format TrustGraph := ⟨shape, read⟩

end TrustGraph

namespace Relationship

/-- A relationship as a record. -/
def toJson (r : Relationship) : Json :=
  .object [("destination", .text r.destination), ("opinion", r.opinion.toJson), ("source", .text r.source)]

/-- Reads a relationship. -/
def read (v : Json) : Option Relationship :=
  if v.isRecord 3 then do
    let source ← required readText (v.member 0 "source")
    let destination ← required readText (v.member 1 "destination")
    let opinion ← required Opinion.read (v.member 2 "opinion")
    return ⟨source, destination, opinion⟩
  else none

/-- The shape of a relationship. -/
def shape : Shape :=
  .record [("source", false, .text), ("destination", false, .text), ("opinion", false, Opinion.shape)]

/-- Relationships in JSON. -/
def format : Format Relationship := ⟨shape, read⟩

end Relationship

/-- Relationships by name as an object of lists. -/
def relationshipsToJson (m : NameMap (List Relationship)) : Json :=
  ofNames (fun rs => .array (rs.map Relationship.toJson)) m

/-- Reads relationships by name. -/
def readRelationships : Json → Option (NameMap (List Relationship)) :=
  readNames (readList Relationship.read)

/-- The shape of relationships by name. -/
def relationshipsShape : Shape := .named (.list Relationship.shape)

/-- Opinions by name as an object. -/
def opinionsToJson (m : NameMap Opinion) : Json := ofNames Opinion.toJson m

/-- Reads opinions by name. -/
def readOpinions : Json → Option (NameMap Opinion) := readNames Opinion.read

/-- The shape of opinions by name. -/
def opinionsShape : Shape := .named Opinion.shape

namespace TmiState

/-- A state as a record. -/
def toJson (s : TmiState) : Json :=
  .object [("Fingerprint", .natural s.fingerprint), ("RTLs", opinionsToJson s.rtls),
    ("Structure", s.graph.toJson), ("Values", relationshipsToJson s.values),
    ("Version", .natural s.version)]

/-- Reads a state. -/
def read (v : Json) : Option TmiState :=
  if v.isRecord 5 then do
    let version ← required readNatural (v.member 0 "Version")
    let fingerprint ← defaulted 0 readNatural (v.member 1 "Fingerprint")
    let graph ← defaulted .empty TrustGraph.read (v.member 2 "Structure")
    let values ← nullable ∅ readRelationships (v.member 3 "Values")
    let rtls ← nullable ∅ readOpinions (v.member 4 "RTLs")
    return ⟨version, fingerprint, graph, values, rtls⟩
  else none

/-- The shape of a state. -/
def shape : Shape :=
  .record [("Version", false, .natural), ("Fingerprint", true, .natural),
    ("Structure", true, TrustGraph.shape), ("Values", true, .nullable relationshipsShape),
    ("RTLs", true, .nullable opinionsShape)]

/-- States in JSON. -/
def format : Format TmiState := ⟨shape, read⟩

end TmiState

/-- Scores by name as an object. -/
def scoresToJson (m : NameMap Float) : Json := ofNames .ofFloat m

/-- Reads scores by name; a truth value counts as one or zero. -/
def readScores : Json → Option (NameMap Float) := readNames readScore

/-- The shape of scores by name. -/
def scoresShape : Shape := .named (.anything fun v => (readScore v).isSome)

namespace AtlBundle

/-- A bundle as a record. -/
def toJson (a : AtlBundle) : Json :=
  .object [("PpResults", scoresToJson a.probabilities), ("SlResults", opinionsToJson a.opinions),
    ("TdResults", scoresToJson a.decisions), ("TmiID", .text a.tmiId), ("Version", .natural a.version)]

/-- Reads a bundle. -/
def read (v : Json) : Option AtlBundle :=
  if v.isRecord 5 then do
    let tmiId ← defaulted "" readText (v.member 0 "TmiID")
    let version ← required readNatural (v.member 1 "Version")
    let opinions ← nullable ∅ readOpinions (v.member 2 "SlResults")
    let probabilities ← nullable ∅ readScores (v.member 3 "PpResults")
    let decisions ← nullable ∅ readScores (v.member 4 "TdResults")
    return ⟨tmiId, version, opinions, probabilities, decisions⟩
  else none

/-- The shape of a bundle. -/
def shape : Shape :=
  .record [("TmiID", true, .text), ("Version", false, .natural),
    ("SlResults", true, .nullable opinionsShape), ("PpResults", true, .nullable scoresShape),
    ("TdResults", true, .nullable scoresShape)]

/-- Bundles in JSON. -/
def format : Format AtlBundle := ⟨shape, read⟩

end AtlBundle

end TrustReplica
