import Caretaker.Lamp
import Caretaker.Provision
import Caretaker.Release
import Caretaker.Reset

/-!
A site is the place where a caretaker works: it has a clock, a network, a store of settings, a
server of releases, a lamp, a store of diagnostics and a way to restart.
-/

namespace Caretaker

/-- What a caretaker asks of its site. -/
inductive Site.Request where
  | now
  | report (r : Report)
  /-- Is there a route to the server of releases right now? -/
  | isOnline
  | setting (key : Provision.Key)
  | join (credentials : Provision.Credentials)
  /-- Is there a release to install? -/
  | check
  | install (release : Release)
  | light (lamp : Lamp)
  /-- Leave a marker for the next boot. -/
  | mark (reason : Reset.Reason)
  | restart (reason : Reset.Reason)
deriving DecidableEq

/-- The answers of a site. -/
@[reducible]
def Site.Answer : Site.Request → Type
  | .now => Stamp
  | .report r => r.Answer
  | .isOnline => Bool
  | .setting _ => Provision.Lookup
  | .join _ => Except Fault Unit
  | .check => Finding
  | .install _ => Installation
  | .light _ => Unit
  | .mark _ => Except Fault Unit
  | .restart _ => Unit

/-- The requests to a site and their answers. -/
abbrev Site : Signature :=
  ⟨Site.Request, Site.Answer⟩

namespace Site

/-- Make one request. -/
def ask (r : Request) : Program Site (Answer r) :=
  Program.request (S := Site) r

instance : Clock Site where
  now := ask .now

instance : Reports Site where
  report r := ask (.report r)

def isOnline : Program Site Bool :=
  ask .isOnline

def setting (key : Provision.Key) : Program Site Provision.Lookup :=
  ask (.setting key)

def join (credentials : Provision.Credentials) : Program Site (Except Fault Unit) :=
  ask (.join credentials)

def check : Program Site Finding :=
  ask .check

def install (release : Release) : Program Site Installation :=
  ask (.install release)

def light (lamp : Lamp) : Program Site Unit :=
  ask (.light lamp)

def mark (reason : Reset.Reason) : Program Site (Except Fault Unit) :=
  ask (.mark reason)

def restart (reason : Reset.Reason) : Program Site Unit :=
  ask (.restart reason)

end Site

end Caretaker
