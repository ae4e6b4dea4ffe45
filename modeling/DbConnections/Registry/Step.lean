import DbConnections.Registry.Close
namespace DbConnections

/-- One request made of a registry. Arguments are loose values, as a caller may pass anything. -/
inductive Step where
  | add (config : Value)
  | engine (name : Value)
  | session (name : Value)
  | closeAll
  | configs
  | buildUrl (index : Value)
  | checkDriver (dialect : Value)
  | enter
  | exit
  deriving Repr

inductive Reply where
  | done
  | engine (e : Engine)
  | session (s : Session)
  | configs (cs : List Config)
  | url (u : Url)
  | same
  deriving Repr

def Reply.isTrue : Reply → Bool
  | .done => false
  | .configs cs => !cs.isEmpty
  | _ => true

namespace Registry

variable [Toolkit] [Validator]

def addRequest (v : Value) : EStateM Fault Registry Unit := do
  let c ← MonadExcept.ofExcept ((Config.ofValue v).mapError Fault.rejected)
  addConnection c

/-- Answers a request and gives the registry after it, also when the request raised. -/
def step (m : Registry) : Step → Registry × Except Fault Reply
  | .add v =>
    match (addRequest v).run m with
    | .ok () m' => (m', .ok .done)
    | .error f m' => (m', .error f)
  | .engine n => (m, Reply.engine <$> m.engine n)
  | .session n => (m, Reply.session <$> m.session n)
  | .closeAll | .exit =>
    let closing := m.closeConnections
    (closing.registry, (fun _ => Reply.done) <$> closing.outcome)
  | .configs => (m, .ok (.configs m.configs))
  | .buildUrl i => (m, (fun c => Reply.url (Url.ofConfig c)) <$> m.configAt i)
  | .checkDriver d => (m, (fun _ => Reply.done) <$> checkDriverValue d)
  | .enter => (m, .ok .same)

/-- Runs a body in a scope of the registry, as a `with` block does. Entering answers the registry
itself, which the body works on; leaving closes every connection, whether or not the body raised.
An exception of the body passes on unless leaving answers a true value, and one that leaving
raises passes on in its place; `none` stands for an exception held back. -/
def withScope {α : Type} (m : Registry) (body : Registry → Registry × Except Fault α) :
    Registry × Except Fault (Option α) :=
  let (m₁, r) := body m
  let (m₂, left) := m₁.step .exit
  match left, r with
  | .error f, _ => (m₂, .error f)
  | .ok _, .ok a => (m₂, .ok (some a))
  | .ok reply, .error f => (m₂, if reply.isTrue then .ok none else .error f)

end Registry

end DbConnections
