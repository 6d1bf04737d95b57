import ButtonGateway.Session

namespace ButtonGateway

inductive Entry where
  | accepted (notice : Notice)
  | handled (notice : Notice)
  | done (effect : Effect)
  deriving DecidableEq, Repr

abbrev Log := List Entry

namespace Log

def accepted (log : Log) : List Notice :=
  log.filterMap fun
    | .accepted notice => some notice
    | .handled _ | .done _ => none

def handled (log : Log) : List Notice :=
  log.filterMap fun
    | .handled notice => some notice
    | .accepted _ | .done _ => none

def effects (log : Log) : List Effect :=
  log.filterMap fun
    | .done effect => some effect
    | .accepted _ | .handled _ => none

def ofArrivals (arrivals : List Notice) : Log := arrivals.map .accepted

def ofAnswer (notice : Notice) (effects : List Effect) : Log :=
  .handled notice :: effects.map .done

@[simp] theorem accepted_append (front back : Log) :
    accepted (front ++ back) = accepted front ++ accepted back := List.filterMap_append

@[simp] theorem handled_append (front back : Log) :
    handled (front ++ back) = handled front ++ handled back := List.filterMap_append

@[simp] theorem effects_append (front back : Log) :
    effects (front ++ back) = effects front ++ effects back := List.filterMap_append

@[simp] theorem accepted_ofArrivals (arrivals : List Notice) :
    accepted (ofArrivals arrivals) = arrivals := by
  unfold accepted ofArrivals
  rw [List.filterMap_map]
  exact List.filterMap_some

@[simp] theorem handled_ofArrivals (arrivals : List Notice) :
    handled (ofArrivals arrivals) = [] := by
  simp [handled, ofArrivals]

@[simp] theorem effects_ofArrivals (arrivals : List Notice) :
    effects (ofArrivals arrivals) = [] := by
  simp [effects, ofArrivals]

@[simp] theorem accepted_done (effects : List Effect) : accepted (effects.map .done) = [] := by
  simp [accepted]

@[simp] theorem handled_done (effects : List Effect) : handled (effects.map .done) = [] := by
  simp [handled]

@[simp] theorem effects_done (done : List Effect) : effects (done.map .done) = done := by
  unfold effects
  rw [List.filterMap_map]
  exact List.filterMap_some

@[simp] theorem accepted_ofAnswer (notice : Notice) (effects : List Effect) :
    accepted (ofAnswer notice effects) = [] := accepted_done effects

@[simp] theorem handled_ofAnswer (notice : Notice) (effects : List Effect) :
    handled (ofAnswer notice effects) = [notice] :=
  congrArg (notice :: ·) (handled_done effects)

@[simp] theorem effects_ofAnswer (notice : Notice) (done : List Effect) :
    effects (ofAnswer notice done) = done := effects_done done

end Log

/-- Whether an effect answers a notice; the others belong to the epochs. -/
def Effect.isAnswer : Effect → Bool
  | .publish _ _ => true
  | .announce online => online
  | .reconnect | .command _ => false

namespace Log

def answers (log : Log) : List Effect := log.effects.filter Effect.isAnswer

/-- The notices that the session handled and that did not end the connection. -/
def heard (log : Log) : List Notice := log.handled.filter fun notice => !notice.isFatal

@[simp] theorem answers_append (front back : Log) :
    answers (front ++ back) = answers front ++ answers back := by
  simp [answers]

@[simp] theorem heard_append (front back : Log) :
    heard (front ++ back) = heard front ++ heard back := by
  simp [heard]

@[simp] theorem answers_ofArrivals (arrivals : List Notice) :
    answers (ofArrivals arrivals) = [] := by
  simp [answers]

@[simp] theorem heard_ofArrivals (arrivals : List Notice) : heard (ofArrivals arrivals) = [] := by
  simp [heard]

@[simp] theorem answers_done (effects : List Effect) :
    answers (effects.map .done) = effects.filter Effect.isAnswer := by
  simp [answers]

@[simp] theorem heard_done (effects : List Effect) : heard (effects.map .done) = [] := by
  simp [heard]

@[simp] theorem answers_ofAnswer (notice : Notice) (effects : List Effect) :
    answers (ofAnswer notice effects) = effects.filter Effect.isAnswer := by
  simp [answers]

@[simp] theorem heard_ofAnswer (notice : Notice) (effects : List Effect) :
    heard (ofAnswer notice effects) = if notice.isFatal then [] else [notice] := by
  cases fatal : notice.isFatal <;> simp [heard, fatal]

end Log

end ButtonGateway
