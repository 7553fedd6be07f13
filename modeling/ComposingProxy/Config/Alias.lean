import ComposingProxy.Config.Basic

/-!
# Aliases of apps

An app that has no alias gets a random one of four small letters and digits. A source
of random words gives the words of a list and then zeros for ever; a word that
would favour some characters is passed over.
-/

namespace ComposingProxy

/-- A source of random words. -/
structure RandomWords where
  words : List UInt64 := []
  deriving DecidableEq, Repr

namespace RandomWords

/-- The number below `count` that a word stands for, unless the word would favour some. The
word is scaled to the range; its low half tells whether it is fair. -/
def pick? (count : Nat) (word : UInt64) : Option Nat :=
  let product := word.toNat * count
  let zone := (count * Nat.pow 2 (63 - Nat.log2 count) + (Nat.pow 2 64 - 1)) % Nat.pow 2 64
  if product % Nat.pow 2 64 ≤ zone then some (product / Nat.pow 2 64) else none

/-- A number below `count` from the words of a list, or zero if they give none. -/
def pickFrom (count : Nat) : List UInt64 → Nat × List UInt64
  | [] => (0, [])
  | word :: rest =>
    match pick? count word with
    | some n => (n, rest)
    | none => pickFrom count rest

/-- A number below `count`. -/
def pick (source : RandomWords) (count : Nat) : Nat × RandomWords :=
  let (n, words) := pickFrom count source.words
  (n, ⟨words⟩)

/-- Numbers below `count`. -/
def pickMany (count : Nat) : Nat → RandomWords → List Nat × RandomWords
  | 0, source => ([], source)
  | amount + 1, source =>
    let (n, source) := source.pick count
    let (more, source) := pickMany count amount source
    (n :: more, source)

end RandomWords

namespace App

/-- The characters of generated aliases. -/
def aliasAlphabet : List Char := "abcdefghijklmnopqrstuvwxyz0123456789".toList

/-- The length of generated aliases. -/
def aliasLength : Nat := 4

/-- A generated alias. -/
def randomAlias (source : RandomWords) : String × RandomWords :=
  let (picks, source) := RandomWords.pickMany aliasAlphabet.length aliasLength source
  (String.ofList (picks.map fun n => aliasAlphabet.getD n 'a'), source)

/-- Gives every app without alias a generated one. -/
def assignAliases (source : RandomWords) : List App → List App
  | [] => []
  | app :: rest =>
    if app.appAlias = "" then
      let (appAlias, source) := randomAlias source
      { app with appAlias } :: assignAliases source rest
    else app :: assignAliases source rest

end App

/-- Gives every app without alias a generated one. -/
def Config.assignMissingAliases (config : Config) (source : RandomWords) : Config :=
  { config with apps := App.assignAliases source config.apps }

end ComposingProxy
