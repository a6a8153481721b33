import AtlasPulse.EventBus
import AtlasPulse.Validation

/-!
# Incident correlation

`correlation.py`: cross-source pairs become the edges of an evidence graph, a
union-find over its nodes finds the connected components, and each component
is an incident candidate. Floats, times and the event model are parameters:
floats count as equal when Python's `==` says so, and times are compared as
instants.
-/

namespace AtlasPulse

open PyJson

/-- Built-in and `math` functions on floats. -/
structure FloatOps (F : Type) where
  ofRat : Rat → F
  isfinite : F → Bool
  lt : F → F → Bool
  le : F → F → Bool
  abs : F → F
  mul : F → F → F
  div : F → F → F
  sum : List F → F
  radians : F → F
  degrees : F → F
  cos : F → F
  sin : F → F
  hypot : F → F → F
  atan2 : F → F → F
  /-- `round(value, digits)` -/
  round : F → Nat → F

/-- What correlation and its readers use of the shared event model. -/
structure SignalModel (E T F : Type) extends EventModel E where
  float : FloatOps F
  eventType : E → String
  occurredAt : E → T
  /-- latitude and longitude -/
  location : E → Option (F × F)
  /-- `payload.get(key)` -/
  payload : E → String → Option Json
  /-- `(later - earlier).total_seconds()` -/
  totalSeconds : T → T → F

def correlationRuleVersion : String := "spatiotemporal-v1"

def correlationCaveat : String :=
  "Edges prove bounded spatial and temporal co-occurrence only; they do not establish " ++
  "causation, corroboration, or a shared real-world incident."

inductive GeometryBasis
  | point
  | polygon
  deriving DecidableEq

inductive SpatialRelation
  | intersects
  | withinRadius
  deriving DecidableEq

/-- Auditable relationship with measured, non-causal facts. -/
structure EvidenceEdge (F : Type) where
  edgeId : String
  fromNodeId : String
  toNodeId : String
  relation : String
  spatialRelation : SpatialRelation
  distanceKm : F
  timeDeltaMinutes : F
  fromGeometryBasis : GeometryBasis
  toGeometryBasis : GeometryBasis
  ruleVersion : String
  deriving DecidableEq

structure EvidenceNode (E : Type) where
  nodeId : String
  message : StreamMessage E

/-- One connected component of cross-source evidence, not a verified incident. -/
structure IncidentCandidate (E T F : Type) where
  incidentId : String
  title : String
  startedAt : T
  latestSignalAt : T
  centerLatitude : Option F
  centerLongitude : Option F
  sources : List String
  nodes : List (EvidenceNode E)
  edges : List (EvidenceEdge F)
  maxDistanceKm : F
  timeSpanMinutes : F
  ruleVersion : String
  caveat : String

structure CorrelationResult (E T F : Type) where
  incidents : List (IncidentCandidate E T F)
  totalIncidents : Nat
  incidentsTruncated : Bool
  candidateEdgesTruncated : Bool

/-! ## Built-ins -/

/-- `value.strip()`. -/
def strip (value : String) : String :=
  String.ofList ((value.toList.dropWhile isSpace).reverse.dropWhile isSpace).reverse

/-- `sorted(set(values))`. -/
def sortedUnique {α : Type} [LinearOrder α] (values : List α) : List α := values.dedup.insertionSort (· ≤ ·)

/-- `min` and `max`: the first value that no other one is better than. -/
def bestOf {α : Type} (better : α → α → Bool) : List α → Except String α
  | [] => .error "iterable argument is empty"
  | a :: as => .ok (as.foldl (fun best x => if better x best then x else best) a)

/-- `_content_id`, of a module with the given rule version. -/
def contentId (sha256 : String → String) (ruleVersion kind : String) (values : List String) : String :=
  kind ++ "-" ++ String.ofList ((sha256 (ruleVersion ++ "\n" ++ "\n".intercalate values)).toList.take 20)

/-! ## Dicts of parents -/

abbrev Parents := AList fun _ : String => String

/-- The `while` loop of `find`: `none` for a missing key, or when the steps run out. -/
def findLoop : Nat → Parents → String → Option (String × Parents)
  | 0, _, _ => none
  | steps + 1, parents, parent => do
    let next ← parents.lookup parent
    if parent = next then some (parent, parents)
    else do
      let skip ← parents.lookup next
      findLoop steps (parents.insert parent skip) skip

def find (parents : Parents) (nodeId : String) : Option (String × Parents) := do
  let parent ← parents.lookup nodeId
  let (root, parents) ← findLoop (parents.entries.length + 1) parents parent
  some (root, parents.insert nodeId root)

def union (parents : Parents) (leftId rightId : String) : Option Parents := do
  let (leftRoot, parents) ← find parents leftId
  let (rightRoot, parents) ← find parents rightId
  if leftRoot = rightRoot then some parents
  else some (parents.insert (max leftRoot rightRoot) (min leftRoot rightRoot))

/-- `components.setdefault(root, []).append(nodeId)`. -/
def appendTo (components : List (String × List String)) (root nodeId : String) : List (String × List String) :=
  if root ∈ components.map Prod.fst then
    components.map fun c => if c.1 = root then (c.1, c.2 ++ [nodeId]) else c
  else components ++ [(root, [nodeId])]

def assign (st : Parents × List (String × List String)) (nodeId : String) : Option (Parents × List (String × List String)) := do
  let (root, parents) ← find st.1 nodeId
  some (parents, appendTo st.2 root nodeId)

/-- The loop that fills `components`. -/
def components (parents : Parents) (nodeIds : List String) : Option (List (String × List String)) :=
  (nodeIds.foldlM assign (parents, [])).map Prod.snd

/-! ## Incidents -/

section
variable {E T F : Type} (m : SignalModel E T F)

def evidenceNodeId (message : StreamMessage E) : String := m.source message.event ++ ":" ++ m.eventId message.event

/-- One cross-source pair measured by PostGIS. -/
structure CorrelationPair where
  left : StreamMessage E
  right : StreamMessage E
  distanceKm : F
  timeDeltaMinutes : F
  leftGeometryBasis : GeometryBasis
  rightGeometryBasis : GeometryBasis
  crossSource : m.source left.event ≠ m.source right.event
  measured : ∀ value ∈ [distanceKm, timeDeltaMinutes],
    (!m.float.isfinite value || m.float.lt value (m.float.ofRat 0)) = false

/-- Bounded database result with an explicit truncation marker. -/
structure CorrelationBatch where
  pairs : List (CorrelationPair m)
  truncated : Bool

variable {m}

/-- `_edge_from_pair`: the endpoints are sorted by node id. -/
def edgeFromPair (pair : CorrelationPair m) : EvidenceEdge F :=
  let left := (evidenceNodeId m pair.left, pair.leftGeometryBasis)
  let right := (evidenceNodeId m pair.right, pair.rightGeometryBasis)
  let (fromEndpoint, toEndpoint) := if right.1 < left.1 then (right, left) else (left, right)
  { edgeId := contentId m.sha256 correlationRuleVersion "edge" [fromEndpoint.1, toEndpoint.1]
    fromNodeId := fromEndpoint.1
    toNodeId := toEndpoint.1
    relation := "spatiotemporal_cooccurrence"
    spatialRelation := if m.float.le pair.distanceKm (m.float.ofRat (1 / 1000)) then .intersects else .withinRadius
    distanceKm := m.float.round pair.distanceKm 3
    timeDeltaMinutes := m.float.round pair.timeDeltaMinutes 3
    fromGeometryBasis := fromEndpoint.2
    toGeometryBasis := toEndpoint.2
    ruleVersion := correlationRuleVersion }

variable (m)

/-- `_center`: the spherical mean of the locations. -/
def center (nodes : List (EvidenceNode E)) : Option F × Option F :=
  let f := m.float
  let locations := nodes.filterMap fun node => m.location node.message.event
  match locations with
  | [] => (none, none)
  | anchor :: _ =>
    let vectors := locations.map fun location =>
      (f.mul (f.cos (f.radians location.1)) (f.cos (f.radians location.2)),
        f.mul (f.cos (f.radians location.1)) (f.sin (f.radians location.2)),
        f.sin (f.radians location.1))
    let count := f.ofRat vectors.length
    let x := f.div (f.sum (vectors.map (·.1))) count
    let y := f.div (f.sum (vectors.map (·.2.1))) count
    let z := f.div (f.sum (vectors.map (·.2.2))) count
    let horizontal := f.hypot x y
    let tiny := f.ofRat (1 / 1000000000000)
    if f.lt horizontal tiny && f.lt (f.abs z) tiny then (some anchor.1, some anchor.2)
    else
      (some (f.round (f.degrees (f.atan2 z horizontal)) 6), some (f.round (f.degrees (f.atan2 y x)) 6))

variable [LinearOrder T]

/-- `_place_for`. -/
def placeFor (nodes : List (EvidenceNode E)) : String :=
  let ordered := nodes.insertionSort fun a b =>
    let ta := m.occurredAt a.message.event
    let tb := m.occurredAt b.message.event
    ta < tb ∨ (ta = tb ∧ a.nodeId ≤ b.nodeId)
  let places := ordered.filterMap fun node =>
    match m.payload node.message.event "place" with
    | some (.str place) => if strip place = "" then none else some (strip place)
    | _ => none
  places.head?.getD "mapped area"

variable [DecidableEq F]

structure Merge where
  parents : Parents
  messages : AList fun _ : String => StreamMessage E
  edges : AList fun _ : String => EvidenceEdge F

variable {m}

def Merge.empty : Merge (E := E) (F := F) := ⟨∅, ∅, ∅⟩

def Merge.addNode (st : Merge (E := E) (F := F)) (nodeId : String) (message : StreamMessage E) :
    Except String (Merge (E := E) (F := F)) :=
  if (st.messages.lookup nodeId).any fun existing => existing.streamId ≠ message.streamId then
    .error "one evidence node resolved to multiple current revisions"
  else .ok
    { st with
      messages := st.messages.insert nodeId message
      parents := if nodeId ∈ st.parents then st.parents else st.parents.insert nodeId nodeId }

/-- The body of the loop over `batch.pairs`. -/
def Merge.addPair (st : Merge (E := E) (F := F)) (pair : CorrelationPair m) : Except String (Merge (E := E) (F := F)) := do
  let edge := edgeFromPair pair
  let st ← st.addNode (evidenceNodeId m pair.left) pair.left
  let st ← st.addNode (evidenceNodeId m pair.right) pair.right
  if (st.edges.lookup edge.edgeId).any fun existing => existing ≠ edge then
    .error "one evidence edge resolved to conflicting measurements"
  else
    match union st.parents edge.fromNodeId edge.toNodeId with
    | none => .error "KeyError"
    | some parents => .ok { st with parents, edges := st.edges.insert edge.edgeId edge }

variable (m)

def nodeOf (st : Merge (E := E) (F := F)) (nodeId : String) : Except String (EvidenceNode E) :=
  match st.messages.lookup nodeId with
  | some message => .ok ⟨nodeId, message⟩
  | none => .error "KeyError"

/-- `component_edges`. -/
def componentEdges (st : Merge (E := E) (F := F)) (orderedIds : List String) : List (EvidenceEdge F) :=
  ((st.edges.entries.map Sigma.snd).filter fun edge => edge.fromNodeId ∈ orderedIds ∧ edge.toNodeId ∈ orderedIds).insertionSort
    fun a b => a.edgeId ≤ b.edgeId

/-- The incident of the component with these nodes. -/
def incidentCandidate (st : Merge (E := E) (F := F)) (nodeIds : List String) : Except String (IncidentCandidate E T F) := do
  let orderedIds := nodeIds.insertionSort (· ≤ ·)
  let nodes ← orderedIds.mapM (nodeOf st)
  let edges := componentEdges st orderedIds
  let times := nodes.map fun node => m.occurredAt node.message.event
  let startedAt ← bestOf (fun x best => x < best) times
  let latestSignalAt ← bestOf (fun x best => best < x) times
  let (latitude, longitude) := center m nodes
  let sources := sortedUnique (nodes.map fun node => m.source node.message.event)
  let maxDistanceKm ← bestOf (fun x best => m.float.lt best x) (edges.map (·.distanceKm))
  .ok
    { incidentId := contentId m.sha256 correlationRuleVersion "incident" orderedIds
      title := toString sources.length ++ "-source signal cluster near " ++ placeFor m nodes
      startedAt, latestSignalAt
      centerLatitude := latitude
      centerLongitude := longitude
      sources, nodes, edges
      maxDistanceKm
      timeSpanMinutes := m.float.round (m.float.div (m.totalSeconds startedAt latestSignalAt) (m.float.ofRat 60)) 3
      ruleVersion := correlationRuleVersion
      caveat := correlationCaveat }

/-- The order of `incidents`: descending by latest signal and id. -/
def incidentBefore (a b : IncidentCandidate E T F) : Prop :=
  b.latestSignalAt < a.latestSignalAt ∨ (b.latestSignalAt = a.latestSignalAt ∧ b.incidentId ≤ a.incidentId)

instance : DecidableRel (incidentBefore (E := E) (T := T) (F := F)) := fun _ _ => inferInstanceAs (Decidable (_ ∨ _))

def buildIncidentCandidates (batch : CorrelationBatch m) (limit : Int) : Except String (CorrelationResult E T F) := do
  check (1 ≤ limit && limit ≤ 100) "incident limit must be between 1 and 100"
  let st ← batch.pairs.foldlM Merge.addPair Merge.empty
  match components st.parents (st.messages.keys.insertionSort (· ≤ ·)) with
  | none => .error "KeyError"
  | some components => do
    let incidents ← components.mapM fun c => incidentCandidate m st c.2
    let incidents := incidents.insertionSort incidentBefore
    .ok
      { incidents := incidents.take limit.toNat
        totalIncidents := incidents.length
        incidentsTruncated := limit < incidents.length
        candidateEdgesTruncated := batch.truncated }

end

end AtlasPulse
