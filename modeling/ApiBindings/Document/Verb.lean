import ApiBindings.Text.Search

/-!
The HTTP methods under which a path can hold operations.
-/

namespace ApiBindings

inductive Verb
  | get
  | post
  | put
  | delete
  | patch
  | copy
  | head
  | options
  | link
  | unlink
  | purge
  | lock
  | unlock
  | propfind
  deriving DecidableEq

namespace Verb

def all : List Verb :=
  [get, post, put, delete, patch, copy, head, options, link, unlink, purge, lock, unlock, propfind]

def name : Verb → String
  | get => "GET"
  | post => "POST"
  | put => "PUT"
  | delete => "DELETE"
  | patch => "PATCH"
  | copy => "COPY"
  | head => "HEAD"
  | options => "OPTIONS"
  | link => "LINK"
  | unlink => "UNLINK"
  | purge => "PURGE"
  | lock => "LOCK"
  | unlock => "UNLOCK"
  | propfind => "PROPFIND"

/-- Letters of either case name a verb. -/
def ofName? (s : String) : Option Verb := all.find? fun v => Text.eqIgnoreCase v.name s

end Verb

end ApiBindings
