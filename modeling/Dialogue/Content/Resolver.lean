import Dialogue.Content.Library
import Dialogue.Random.Stream

/-!
# Resolving content keys

A resolver answers a key with a line of the first key of its chain that has a
usable variant, drawn at random, and gives the same line again whenever the
same text is asked for.  Lines that were not found are not remembered, and
only a draw moves the generator.
-/

namespace Dialogue.Content

/-- What a resolver remembers. -/
structure Resolver where
  settings : Settings
  /-- The lines given so far, under the texts that were asked for. -/
  cache : Dictionary String := .empty
  generator : Random.Generator

namespace Resolver

/-- A resolver that has not been asked yet. -/
def new (settings : Settings) : Resolver :=
  { settings, generator := .ofSeed settings.seed }

/-- The keys that are tried for a text; none if it is no key. -/
def chain (resolver : Resolver) (text : String) : List String :=
  match Key.parse? text with
  | some key => key.chain resolver.settings
  | none => []

/-- The variants of the first key that has any. -/
def firstUsable? (variants : String → List String) (keys : List String) :
    Option (List String) :=
  (keys.map variants).find? fun lines => !lines.isEmpty

/-- Draw one of the variants and remember it. -/
def draw (resolver : Resolver) (text : String) (lines : List String) :
    String × Resolver :=
  let (index, generator) := resolver.generator.pick lines.length
  let line := lines.getD index ""
  (line, { resolver with cache := resolver.cache.insert text line, generator })

/-- The line for a text, if it is a key with lines. -/
def resolve? (resolver : Resolver) (variants : String → List String)
    (text : String) : Option String × Resolver :=
  match resolver.cache.get? text with
  | some line => (some line, resolver)
  | none =>
      match firstUsable? variants (resolver.chain text) with
      | none => (none, resolver)
      | some lines =>
          let (line, resolver) := resolver.draw text lines
          (some line, resolver)

/-- The line for a text, or another one if there is none. -/
def resolve (resolver : Resolver) (variants : String → List String)
    (text fallback : String) : String × Resolver :=
  let (line, resolver) := resolver.resolve? variants text
  (line.getD fallback, resolver)

/-- A resolver that has forgotten the lines it gave. -/
def clear (resolver : Resolver) : Resolver :=
  { resolver with cache := .empty }

end Resolver

end Dialogue.Content
