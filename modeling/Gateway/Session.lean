import Gateway.Audit.Basic
import Gateway.Config.Load
import Gateway.Snapshot.Codec
import Gateway.Snapshot.Place

namespace Gateway

structure Session where
  snapshot : Snapshot := {}
  settings : Settings := {}

namespace Session

inductive Step where
  | project (raw : Bool) (config : Bytes)
  | load (snapshot : Bytes)
  | shorten
  | expand
  | store
  | wire
  | set (place : Snapshot.Place) (ns : String) (numbers : List Int64)
  | unset (place : Snapshot.Place) (ns : String)
  | flags (place : Snapshot.Place) (numbers : List Int64)
  | exclude (ids : List String)
  | report (labels : List String)
  | audit

inductive Reply where
  | snapshot (s : Snapshot)
  | settings (t : Settings)
  | wire (text : Bytes)
  | ruleIds (ids : List String)

inductive Error where
  | config (e : LoadError)
  | snapshot (fault : Fault)
  | codec (e : Snapshot.CodecError)
  | noSuchPlace
  | unknownSeverity (label : String)

def severities (labels : List String) : Except String (List Severity) :=
  labels.mapM fun label =>
    match Severity.ofLabel? label with
    | some s => .ok s
    | none => .error label

def withSnapshot (session : Session) (s : Snapshot) : Reply × Session :=
  (.snapshot s, { session with snapshot := s })

def withSettings (session : Session) (t : Settings) : Reply × Session :=
  (.settings t, { session with settings := t })

def alter (session : Session) (place : Snapshot.Place)
    (f : Snapshot.Facts → Snapshot.Facts) : Except Error (Reply × Session) :=
  match session.snapshot.alterAt? f place with
  | some s => .ok (session.withSnapshot s)
  | none => .error .noSuchPlace

def readConfig (raw : Bool) (config : Bytes) : Except LoadError Config :=
  if raw then Config.ofJson config else Config.loadJson config

def step (pack : Bytes → Bytes) (session : Session) : Step → Except Error (Reply × Session)
  | .project raw config => do
      let c ← (readConfig raw config).mapError .config
      return session.withSnapshot c.snapshot
  | .load snapshot => do
      let s ← ((Json.parse snapshot).read Snapshot.read).mapError .snapshot
      return session.withSnapshot s
  | .shorten => .ok (session.withSnapshot (session.snapshot.mapComponents Snapshot.shorten))
  | .expand => .ok (session.withSnapshot (session.snapshot.mapComponents Snapshot.expand))
  | .store => do
      let s ← (Snapshot.decode (session.snapshot.encode pack)).mapError .codec
      return session.withSnapshot s
  | .wire => .ok (.wire session.snapshot.wire, session)
  | .set place ns numbers =>
      session.alter place fun facts =>
        { facts with components := facts.components.insert ns numbers }
  | .unset place ns =>
      session.alter place fun facts => { facts with components := facts.components.erase ns }
  | .flags place numbers => session.alter place fun facts => { facts with flags := numbers }
  | .exclude ids => .ok (session.withSettings (session.settings.excluding ids))
  | .report labels => do
      let severities ← (severities labels).mapError .unknownSeverity
      return session.withSettings (session.settings.reporting severities)
  | .audit =>
      .ok (.ruleIds ((session.snapshot.audit session.settings).map (·.rule)), session)

end Session

end Gateway
