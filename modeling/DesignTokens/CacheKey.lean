import DesignTokens.Digest.Sha256
import DesignTokens.Json.Printer
import DesignTokens.Resolution.Environment
import DesignTokens.Text.Utf8

/-!
# DesignTokens.CacheKey — keys for what a host keeps

A host may keep trees and resolved tokens. A tree belongs to the URI and content of its document, a
token also to the settings it was resolved with.

1. **Hashes of contents** (`ContentHash`) and **identities** of documents (`Identity`).
2. **Keys**: `Settings.key`, `Identity.documentKey`, `Identity.tokenKey`.
-/

namespace DesignTokens

/-- The hash of a content, as digits to the base sixteen. -/
structure ContentHash where
  text : String
deriving Repr, DecidableEq, Inhabited

namespace ContentHash

def ofBytes (bytes : List UInt8) : ContentHash :=
  ⟨Sha256.hexDigest bytes⟩

def ofText (content : String) : ContentHash :=
  ofBytes (Text.Utf8.encode content.toList)

def isOf (hash : ContentHash) (content : String) : Bool :=
  hash = ofText content

end ContentHash

/-- The identity of a document: where it is, and what it contains. -/
structure Identity where
  uri : Uri
  hash : ContentHash
deriving Repr, DecidableEq, Inhabited

/-- The identity of the document with the given URI and text. -/
def Identity.of (uri : Uri) (content : String) : Identity :=
  ⟨uri, .ofText content⟩

namespace Resolution.Settings

/-- What is hashed to the key of settings: the canonical text of the context and the limits. -/
def keyText (s : Settings) : String :=
  let network := if s.allowNetwork then "true" else "false"
  (Json.object s.context).canonical ++ s!"|depth={s.maxDepth}|network=" ++ network

/-- The key of settings; the order in which the context is written does not matter. -/
def key (s : Settings) : String :=
  (ContentHash.ofText s.keyText).text

end Resolution.Settings

namespace Identity

def documentKey (identity : Identity) : String :=
  identity.uri.text ++ "@" ++ identity.hash.text

/-- The key of a token of a document, resolved with the given settings. -/
def tokenKey (identity : Identity) (settings : Resolution.Settings) (pointer : Pointer) : String :=
  identity.documentKey ++ ":" ++ settings.key ++ pointer.text

end Identity

end DesignTokens
