import ResourcePolicy.Values

/-!
# Principals

A principal says whom a statement applies to: anyone at all, or the values given for each type
of principal. A bare text other than the wildcard means a single AWS value. Types other than
AWS, Service and Federated are checked and then dropped.
-/

namespace ResourcePolicy

/-- The text that stands for anyone. -/
def wildcard : String := "*"

/-- The values of each principal type. -/
structure PrincipalTypes where
  aws : Values := ∅
  service : Values := ∅
  federated : Values := ∅
deriving DecidableEq

/-- Whom a statement applies to. -/
inductive Principal where
  /-- Anyone: the bare wildcard. -/
  | any
  /-- Those named, type by type. -/
  | named (types : PrincipalTypes)
deriving DecidableEq

namespace Principal

/-- Whether the principal is the bare wildcard. -/
def isAny : Principal → Bool
  | any => true
  | named _ => false

/-- The values by type, the bare wildcard being the single AWS value `*`. -/
def types : Principal → PrincipalTypes
  | any => { aws := .single wildcard }
  | named types => types

/-- The AWS values as written. -/
def aws (principal : Principal) : List String := principal.types.aws.toList

/-- The services. -/
def services (principal : Principal) : List String := principal.types.service.toList

/-- The federated identities. -/
def federated (principal : Principal) : List String := principal.types.federated.toList

/-- Reads a text, or a map of principal types to values. -/
def ofJson : Json → Except ShapeError Principal
  | .str text =>
    .ok (if text = wildcard then any else named { aws := .single text })
  | .obj members =>
    match (KeyMap.ofList members).mapM Values.ofJson with
    | .ok map =>
      .ok (named {
        aws := (map.get? "AWS").getD ∅
        service := (map.get? "Service").getD ∅
        federated := (map.get? "Federated").getD ∅ })
    | .error _ => .error .notAPrincipal
  | _ => .error .notAPrincipal

/-- The principal as a map that leaves out the types without values. -/
def toJson (principal : Principal) : Json :=
  Json.objectOf [
    ("AWS", principal.types.aws.toJson?),
    ("Service", principal.types.service.toJson?),
    ("Federated", principal.types.federated.toJson?)]

end Principal

end ResourcePolicy
