import DesignTokens.Proofs.Resolution.Congruence
import DesignTokens.Proofs.Resolution.History

/-!
# DesignTokens.Proofs.Resolution.Network — what is loaded from the network and not allowed

A resolution looks at the other documents only to follow a reference, and a reference to a document
of the network is refused before the documents are looked at. So, unless the network is allowed, it
makes no difference which documents of the network are loaded.

1. **Environments without the network** (`Environment.congruent_of_offline`) cannot be told apart.
2. **Answers** (`answers_independent_of_network`), for any calls before, with any transforms.
-/

namespace DesignTokens.Resolution

/-! ## Environments without the network -/

/-- Without the network, the documents of the network are those that no reference leads to. -/
theorem Environment.congruent_of_offline {env env' : Environment} (root : env'.root = env.root)
    (settings : env'.settings = env.settings) (offline : env.settings.allowNetwork = false)
    (here : ∀ uri : Uri, uri.isNetwork = false → env'.external? uri = env.external? uri) :
    env.Congruent env' where
  root := root
  maxDepth := by rw [settings]
  follow := by
    intro g reference
    unfold Environment.follow
    cases network : reference.target.isNetwork with
    | true =>
      -- The reference stays in its document, or is refused.
      simp [network, settings, offline]
    | false =>
      have loaded := here reference.target.uri network
      simp [network, root, loaded]
  override? := by
    intro g _ pointer
    have enables : env'.enables = env.enables := by
      funext entry
      simp only [Environment.enables, settings]
    simp only [Environment.override?, enables]

/-! ## Answers -/

/-- Unless the network is allowed, every answer after any calls is the same whichever documents of
the network are loaded: in the token, the reports and what transforms make of it. -/
theorem answers_independent_of_network {env env' : Environment} (root : env'.root = env.root)
    (settings : env'.settings = env.settings) (offline : env.settings.allowNetwork = false)
    (here : ∀ uri : Uri, uri.isNetwork = false → env'.external? uri = env.external? uri)
    (document : Option Document) (transforms : List Transform) (calls : List Resolver.Call)
    (call : Resolver.Call) :
    (({ env := env', document, transforms } : Resolver).performAll calls).answers call =
      (({ env, document, transforms } : Resolver).performAll calls).answers call := by
  let r : Resolver := { env, document, transforms }
  have same : r.env.Congruent env' :=
    Environment.congruent_of_offline root settings offline here
  exact Resolver.answers_performAll_moved same calls call

/-! ### A document that refers to the network -/

namespace Online

open Sample (linkTo overridePlace place referenceInto remote valueText)

/-- In the mode `on`, `accent` is replaced by a token of the network, or else by a value that is
written out. -/
def replaced : Override Reference :=
  let list := overridePlace.child "$fallback"
  Sample.override "accent" [("mode", .string "on")]
    (.mk overridePlace none (some (referenceInto remote "b" (overridePlace.child "$ref"))) none
      [.mk (list.index 0) none (some (referenceInto remote "b" ((list.index 0).child "$ref")))
        none [],
       .mk (list.index 1) none none
        (some ⟨.string "#333333", (list.index 1).child "$value", none⟩) []])

/-- An alias, an override and a replacement that refer to the network. -/
def site : Graph :=
  let deprecated := (place "accent").child "$deprecated"
  Sample.graph Sample.home
    [linkTo "brand" remote "b",
     { Sample.token "accent" "#222222" with
       replacement := some (referenceInto remote "b" (deprecated.child "$replacement")) }]
    [replaced]

def base : Graph :=
  Sample.graph remote [Sample.token "b" "#bbbbbb"] []

def environment (loaded : List Graph) (allowNetwork : Bool) : Environment where
  root := site
  externals := loaded.map fun g => (g.uri, g)
  settings := { context := [("mode", .string "on")], allowNetwork }

/-- The texts of the values of all tokens, after a call for one of them. -/
def valueTexts (env : Environment) : List (Option String) :=
  (((Resolver.new env).performAll [.named "#/brand"]).answers .all).map valueText

end Online

/-- With the document of the network or without it, `brand` has no value and `accent` falls back; if
the network is allowed, both have the value of the network. -/
theorem answers_without_base :
    (Online.environment [] false).settings.allowNetwork = false ∧
      (∀ uri : Uri, uri.isNetwork = false → (Online.environment [] false).external? uri =
        (Online.environment [Online.base] false).external? uri) ∧
      ((Resolver.new (Online.environment [] false)).performAll [.named "#/brand"]).answers .all =
        ((Resolver.new (Online.environment [Online.base] false)).performAll
          [.named "#/brand"]).answers .all ∧
      Online.valueTexts (Online.environment [] false) = [none, some "#333333"] ∧
      Online.valueTexts (Online.environment [Online.base] true) =
        [some "#bbbbbb", some "#bbbbbb"] := by
  have here : ∀ uri : Uri, uri.isNetwork = false → (Online.environment [] false).external? uri =
      (Online.environment [Online.base] false).external? uri := by
    -- A document of another scheme is not in either list.
    intro uri file
    have other : uri ≠ Online.base.uri := by
      rintro rfl
      exact absurd file (by decide)
    have miss : (uri == Online.base.uri) = false := beq_false_of_ne other
    simp [Environment.external?, Online.environment, List.lookup_cons, miss]
  have root : (Online.environment [] false).root =
      (Online.environment [Online.base] false).root := rfl
  have same := answers_independent_of_network root rfl rfl here none [] [.named "#/brand"] .all
  exact ⟨rfl, here, same, by decide, by decide⟩

end DesignTokens.Resolution
