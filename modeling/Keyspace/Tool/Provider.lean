import Keyspace.Service
import Keyspace.Tool.Basic

set_option autoImplicit false

namespace Keyspace.Tool

/-- What serves one or more tools, over a data store whose engine has states in `σ`. -/
structure Provider (σ : Type) where
  name : String
  tools : Except Error (List Metadata)
  describe : String → Except Error Metadata
  execute : Instant → String → Json → Service.Run σ (Except Error Result)

namespace Provider

variable {σ : Type}

def echo (name : String) (tools : List String) (failure : Option String) : Provider σ where
  name := name
  tools := match failure with
    | some detail => .error (.protocolError detail)
    | none => .ok (tools.map fun tool => Metadata.new tool ("from " ++ name))
  describe tool := .ok (Metadata.new tool ("from " ++ name))
  execute _ tool parameters := pure <| .ok <| Result.succeeded <| .obj
    [("echo", parameters), ("protocol", .str name), ("tool", .str tool)]

end Provider

/-- The registered tools by name, each with its provider. -/
structure Registry (σ : Type) where
  routes : SortedMap (Metadata × Provider σ)

namespace Registry

variable {σ : Type}

def empty : Registry σ := ⟨SortedMap.empty⟩

instance : Inhabited (Registry σ) := ⟨empty⟩

/-- The registry with every tool of a provider, and how many those are. A tool replaces an earlier
one of the same name. -/
def register (r : Registry σ) (provider : Provider σ) : Except Error (Nat × Registry σ) := do
  let tools ← provider.tools
  return (tools.length, ⟨r.routes.extend (tools.map fun tool => (tool.name, tool, provider))⟩)

def tools (r : Registry σ) : List Metadata := r.routes.values.map (·.1)

def tool? (r : Registry σ) (name : String) : Option Metadata := (r.routes.get? name).map (·.1)

def execute (r : Registry σ) (now : Instant) (tool : String) (parameters : Json) :
    Service.Run σ (Except Error Result) :=
  match r.routes.get? tool with
  | some (_, provider) => provider.execute now tool parameters
  | none => pure (.error (.notFound tool))

end Registry

end Keyspace.Tool
