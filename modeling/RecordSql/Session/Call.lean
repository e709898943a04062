import RecordSql.Session.Basic

/-! Calls on the builders that a session keeps. -/

namespace RecordSql.Session

variable {σ κ α : Type}

structure Called (σ : Type) where
  result : Except Error Reply
  builder : Option AnyBuilder
  session : Session σ

def changed (s : Session σ) (b : AnyBuilder) : Called σ := ⟨.ok .done, some b, s⟩

def told (s : Session σ) (b : AnyBuilder) (result : Except Error Reply) : Called σ :=
  ⟨result, some b, s⟩

def worked (s : Session σ) (wrap : Builder κ → AnyBuilder) (reply : α → Reply)
    (a : Act σ (Except Error α × Builder κ)) : Called σ :=
  let ((r, b), s) := s.act a
  ⟨r.map reply, some (wrap b), s⟩

def used (s : Session σ) (reply : α → Reply) (run : Run σ α) : Called σ :=
  let (r, s) := s.answer run reply
  ⟨r, none, s⟩

def callSelect (c : Connection σ) (s : Session σ) (name : String) (b : Builder Select) :
    Request → Called σ
  | .filter e => s.changed (.select (b.edit (Select.Edit.filter e)))
  | .columns refs => s.changed (.select (b.edit (Select.Edit.columns refs)))
  | .distinct => s.changed (.select (b.edit Select.Edit.distinct))
  | .join recordType kind on => s.changed (.select (b.joinRecords c recordType kind on))
  | .joinSubquery sub kind on =>
    match s.subquery? sub with
    | some q => s.changed (.select (b.edit (Select.Edit.join kind q.source on)))
    | none => s.told (.select b) (.ok (.missing sub))
  | .order r direction => s.changed (.select (b.edit (Select.Edit.order r direction)))
  | .limit n => s.changed (.select (b.edit (Select.Edit.limit n)))
  | .offset n => s.changed (.select (b.edit (Select.Edit.offset n)))
  | .buildCount => s.told (.select b) (b.buildCount.map (Reply.built .select))
  | .count =>
    let (r, s) := s.answer (b.count c) Reply.integer
    s.told (.select b) r
  | .subquery name key =>
    match b.subquery name with
    | .ok q => (s.keepSubquery key q).told (.select b) (.ok (.subquery q))
    | .error e => s.told (.select b) (.error e)
  | .prepare => s.worked .select (fun () => .done) (b.prepare c)
  | .rows n => s.worked .select .items (b.rows c n)
  | .fetchAll => s.used .records (b.fetchAll c)
  | .fetchFirst => s.used .record (b.fetchFirst c)
  | .fetchOne => s.used (fun r => .record (some r)) (b.fetchOne c)
  | .one => s.used .record (b.one c)
  | _ => s.told (.select b) (.ok (.missing name))

def callUpdate (c : Connection σ) (s : Session σ) (name : String) (b : Builder Update) :
    Request → Called σ
  | .filter e => s.changed (.update (b.edit (Update.Edit.filter e)))
  | .set column v => s.changed (.update (b.edit (Update.Edit.set column v)))
  | .setJson column document => s.changed (.update (b.setJson column document))
  | .prepare => s.worked .update (fun () => .done) (b.prepare c)
  | .exec => s.worked .update .nat (b.exec c)
  | _ => s.told (.update b) (.ok (.missing name))

def callDelete (c : Connection σ) (s : Session σ) (name : String) (b : Builder Delete) :
    Request → Called σ
  | .filter e => s.changed (.delete (b.edit (Delete.Edit.filter e)))
  | .prepare => s.worked .delete (fun () => .done) (b.prepare c)
  | .exec => s.worked .delete .nat (b.exec c)
  | _ => s.told (.delete b) (.ok (.missing name))

def callInsert (c : Connection σ) (s : Session σ) (name : String) (b : Builder Insert) :
    Request → Called σ
  | .values rows =>
    match rows.mapM b.content.table.record with
    | .ok records =>
      let b := b.addRecords records
      s.told (.insert b) (.ok (.rowCount b.content.rows.length))
    | .error e => s.told (.insert b) (.error e)
  | .onConflict clause => s.changed (.insert (b.edit (Insert.Edit.onConflict clause)))
  | .prepare => s.worked .insert (fun () => .done) (b.prepare c)
  | .exec => s.worked .insert .nat (b.exec c)
  | _ => s.told (.insert b) (.ok (.missing name))

def request (c : Connection σ) (s : Session σ) (name : String) (b : AnyBuilder) :
    Request → Called σ
  | .build => s.told b (b.build.map (Reply.built b.kind))
  | .text => s.told b (b.build.map fun sql => .text sql.text)
  | .stage => s.told b (.ok .done)
  | r =>
    match b with
    | .select b => s.callSelect c name b r
    | .insert b => s.callInsert c name b r
    | .update b => s.callUpdate c name b r
    | .delete b => s.callDelete c name b r

/-- Make a request of the builder of a name; the stage of the builder comes second, unless it was
used up or nothing was found. -/
def call (c : Connection σ) (s : Session σ) (name : String) (r : Request) :
    Except Error Reply × Option Stage × Session σ :=
  match s.builder? name with
  | none => (.ok (.missing name), none, s)
  | some b =>
    let called := s.request c name b r
    let stage :=
      match called.result with
      | .ok (.missing _) => none
      | _ => called.builder.map AnyBuilder.stage
    match called.builder with
    | some b => (called.result, stage, called.session.keep name b)
    | none => (called.result, none, called.session.without name)

end RecordSql.Session
