import PixelTelescope.Run.Reader

namespace PixelTelescope.Run.Stored

/-- Rows of a table as lists of integers; a real number stands as its 64 bits. -/
abbrev Line := List Int

def bits (x : Float) : Int := x.toBits.toNat

def real (n : Int) : Float := Float.ofBits (UInt64.ofNat n.toNat)

def row (r : Event.Row Float) : Line :=
  [r.sensorId, r.x, r.y, bits r.signal] ++ (r.time.map bits).toList

def row? : Line → Option (Event.Row Float)
  | [sensorId, x, y, signal] => some ⟨sensorId, x, y, real signal, none⟩
  | [sensorId, x, y, signal, time] => some ⟨sensorId, x, y, real signal, some (real time)⟩
  | _ => none

def cluster (c : Event.Cluster Float) : Line :=
  [c.id, c.sensorId, c.track, c.size, bits c.signal, bits c.x, bits c.y]

def cluster? : Line → Option (Event.Cluster Float)
  | [id, sensorId, track, size, signal, x, y] =>
    some ⟨id.toNat, sensorId, track, size.toNat, real signal, real x, real y⟩
  | _ => none

def link (l : Event.ClusterLink) : Line := [l.collection, l.hit, l.cluster]

def link? : Line → Option Event.ClusterLink
  | [collection, hit, cluster] => some ⟨collection.toNat, hit.toNat, cluster.toNat⟩
  | _ => none

def simHit (h : Event.SimHit Float) : Line :=
  [h.collection, h.hit, h.sensorId, h.track, h.pdg, bits h.x, bits h.y, bits h.z]

def simHit? : Line → Option (Event.SimHit Float)
  | [collection, hit, sensorId, track, pdg, x, y, z] =>
    some ⟨collection.toNat, hit.toNat, sensorId, track, pdg, real x, real y, real z⟩
  | _ => none

def track (t : Event.Track) : Line := [t.track, t.pdg, t.hits, t.sensors]

def track? : Line → Option Event.Track
  | [track, pdg, hits, sensors] => some ⟨track, pdg, hits.toNat, sensors.toNat⟩
  | _ => none

def lines {β : Type} (f : β → Line) (items : List β) : Value :=
  .list (items.map fun item => .list ((f item).map .int))

def int? : Value → Option Int
  | .int n => some n
  | _ => none

def text? : Value → Option String
  | .text s => some s
  | _ => none

def list? {β : Type} (f : Value → Option β) : Value → Option (List β)
  | .list items => items.mapM f
  | _ => none

def lines? {β : Type} (f : Line → Option β) : Value → Option (List β) :=
  list? fun v => (list? int? v).bind f

def orNull {β : Type} (f : β → Value) (o : Option β) : Value := (o.map f).getD .null

def orNull? {β : Type} (f : Value → Option β) : Value → Option (Option β)
  | .null => some none
  | v => (f v).map some

def named : String × Attribute → Value
  | (name, .int n) => .list [.text name, .int n]
  | (name, .text s) => .list [.text name, .text s]

def named? : Value → Option (String × Attribute)
  | .list [.text name, .int n] => some (name, .int n)
  | .list [.text name, .text s] => some (name, .text s)
  | _ => none

def table (t : List String × HitTable Float) : Value :=
  .list [Value.texts t.1, lines row t.2.rows, orNull .int t.2.pixelType]

def table? : Value → Option (List String × HitTable Float)
  | .list [parts, rows, code] => do
    return (← list? text? parts, ⟨← lines? row? rows, ← orNull? int? code⟩)
  | _ => none

def truth (t : TruthGroup Float) : Value :=
  .list [orNull (lines cluster) t.clusters, orNull (lines link) t.links,
    orNull (lines simHit) t.simHits, orNull (lines track) t.tracks]

def truth? : Value → Option (TruthGroup Float)
  | .list [clusters, links, simHits, tracks] => do
    return {
      clusters := ← orNull? (lines? cluster?) clusters
      links := ← orNull? (lines? link?) links
      simHits := ← orNull? (lines? simHit?) simHits
      tracks := ← orNull? (lines? track?) tracks }
  | _ => none

def group (entry : String × Group Float) : Value :=
  .list [.text entry.1, .list (entry.2.attributes.map named),
    orNull (fun tables => .list (tables.map table)) entry.2.collections,
    orNull truth entry.2.truth]

def group? : Value → Option (String × Group Float)
  | .list [.text name, attributes, collections, tables] => do
    return (name, {
      attributes := ← list? named? attributes
      collections := ← orNull? (list? table?) collections
      truth := ← orNull? truth? tables })
  | _ => none

/-- A run file as text. -/
def write (f : File Float) : String :=
  Json.write (.list [.list (f.attributes.map named),
    orNull (fun groups => .list (groups.map group)) f.events])

/-- The run file in a text, if it holds one. -/
def read? (s : String) : Option (File Float) :=
  match Json.read s with
  | some (.list [attributes, events]) => do
    return ⟨← list? named? attributes, ← orNull? (list? group?) events⟩
  | _ => none

end PixelTelescope.Run.Stored
