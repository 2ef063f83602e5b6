import PageHarvest.Replay.Handler.Basic

/-!
Narrowing the scope to the matches of a selector. The matches under each root follow one another in
the order of the roots, and no match at all is an empty scope.
-/
namespace PageHarvest.Handler
variable {W P H C : Type}

/-- The matches under each root in turn. -/
def queryRoots (h : Host W P H C) (page : P) (selector : String) :
    List (Option H) → Act W (List H)
  | [] => return []
  | root :: rest => do
    let found ← h.queryAll page selector root
    return found ++ (← queryRoots h page selector rest)

theorem queryRoots_eq_mapM (h : Host W P H C) (page : P) (selector : String)
    (roots : List (Option H)) :
    queryRoots h page selector roots = List.flatten <$> roots.mapM (h.queryAll page selector) := by
  induction roots with
  | nil => rfl
  | cons root rest ih => simp [queryRoots, ih, List.mapM_cons]

def groupStep (h : Host W P H C) (selector : String) (s : ReplayState P H) :
    Act W (ReplayState P H) := do
  let handles ← queryRoots h s.page selector s.scope.roots
  h.log .debug "group_by.matched" [("selector", .text selector),
    ("parents", .int s.scope.roots.length), ("count", .int handles.length)]
  return s.withScope (.grouped handles)

def groupBy : Handler W P H C where
  name := "GroupByStepHandler"
  accept h _
    | .groupBy selector => some fun s => some <$> groupStep h selector s
    | _ => none

end PageHarvest.Handler
