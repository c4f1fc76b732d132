import MigrationClient.Http.Method

/-!
# Operations

What the service can be asked to do, and the request that asks for it. An identifier goes into
the path as it is.
-/

namespace MigrationClient

inductive Operation where
  | resources
  | reset
  | migrateTenant (tenant : String)
  | evacuateHost (host : String)
  deriving DecidableEq, Repr

namespace Operation

def method : Operation → Http.Method
  | resources => .get
  | _ => .post

def path : Operation → String
  | resources => "/resources"
  | reset => "/reset"
  | migrateTenant tenant => "/tenants/" ++ tenant
  | evacuateHost host => "/hosts/" ++ host

end Operation

end MigrationClient
