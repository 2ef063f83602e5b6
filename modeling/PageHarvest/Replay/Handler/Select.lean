import PageHarvest.Replay.Handler.Basic

/-!
Building one record for each root of the scope. A field without a match is null.
-/
namespace PageHarvest.Handler
variable {W P H C : Type}

/-- Reads fields under a root into a record; a name given twice keeps its first place. -/
def readFields (h : Host W P H C) (page : P) (root : Option H) (record : Record) :
    List Field → Act W Record
  | [] => return record
  | f :: rest => do
    let v ← h.extract page root f.selector f.attr
    readFields h page root (record.put f.name (Value.ofText? v)) rest

theorem readFields_eq_mapM (h : Host W P H C) (page : P) (root : Option H) (record : Record)
    (fields : List Field) :
    readFields h page root record fields =
      (fun values => record.update
        ((fields.zip values).map fun (f, v) => (f.name, Value.ofText? v))) <$>
        fields.mapM fun f => h.extract page root f.selector f.attr := by
  induction fields generalizing record with
  | nil => rfl
  | cons f rest ih => simp [readFields, ih, List.mapM_cons, Table.update]

/-- One record for each root in turn. -/
def readRecords (h : Host W P H C) (page : P) (fields : List Field) :
    List (Option H) → Act W (List Record)
  | [] => return []
  | root :: rest => do
    let record ← readFields h page root [] fields
    return record :: (← readRecords h page fields rest)

theorem readRecords_eq_mapM (h : Host W P H C) (page : P) (fields : List Field)
    (roots : List (Option H)) :
    readRecords h page fields roots = roots.mapM fun root => readFields h page root [] fields := by
  induction roots with
  | nil => rfl
  | cons root rest ih => simp [readRecords, ih, List.mapM_cons]

/-- Whether a record has no value under a name. -/
def lacks (name : String) (r : Record) : Bool :=
  match r.get? name with
  | some .null | none => true
  | some _ => false

/-- The names of fields that are null in every record. -/
def missingFields (fields : List Field) (records : List Record) : List String :=
  (fields.map (·.name)).filter fun name => records.all (lacks name)

def selectStep (h : Host W P H C) (fields : List Field) (s : ReplayState P H) :
    Act W (ReplayState P H) := do
  let records ← readRecords h s.page fields s.scope.roots
  h.log .debug "select.records" [("scope", .text s.scope.kind), ("count", .int records.length),
    ("fields", .list (fields.map fun f => .text f.name)),
    ("missing_fields", .list ((missingFields fields records).map .text))]
  return s.withRecords records

def select : Handler W P H C where
  name := "SelectStepHandler"
  accept h _
    | .select fields => some fun s => some <$> selectStep h fields s
    | _ => none

end PageHarvest.Handler
