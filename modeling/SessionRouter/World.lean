import SessionRouter.Integrations.Types

/-!
What the router reads from outside: random identifiers and tokens, clocks, whether a send is
accepted, the iteration order of its hash maps and the integration configuration. Each reading
is taken at a tick of its own, so every sequence of outcomes is some world.
-/

namespace SessionRouter

class World where
  uuid : ℕ → Uuid
  uuid_injective : Function.Injective uuid
  uuid_ne_nil : ∀ t, uuid t ≠ Uuid.nil
  token : ℕ → String
  token_canonical : ∀ t, canonicalToken (token t) = true
  /-- Milliseconds since the epoch; the wall clock may go backwards. -/
  now : ℕ → ℕ
  now_le : ∀ t, now t ≤ maxSafeInteger
  /-- The monotonic clock, in nanoseconds. -/
  instant : ℕ → ℕ
  instant_mono : Monotone instant
  /-- Whether the outgoing queue of a connection takes a message. -/
  accepts : ℕ → Bool
  /-- The order in which a hash map is traversed. -/
  arrange : ℕ → ∀ {α : Type}, List α → List α
  arrange_perm : ∀ t {α : Type} (l : List α), (arrange t l).Perm l
  /-- The configuration file as `IntegrationCatalog::load` finds it. -/
  catalog : ℕ → Option (List IntegrationConnection)
  catalog_nodup : ∀ t connections, catalog t = some connections →
    (connections.map fun c => (c.workspace, c.provider)).Nodup ∧
    (connections.map fun c => (c.provider, c.ns)).Nodup
  /-- Whether `IntegrationClient::new` succeeds. -/
  clientReady : ℕ → Bool

end SessionRouter
