import TrustRoot.Document.Signing

/-!
# Stores of documents

A store holds documents under names. Copies of a document share one bag of signatures until one of
them is signed: a bag with a single holder is changed in place, and a shared one is copied first.
What a name stands for is a document (`Store.get?`); which names share a bag is visible only through
`Store.shares`.
-/

namespace TrustRoot

/-- A document in a store: its body and the place of its signatures. -/
structure Holder where
  body : Body
  bag : Nat

/-- Documents under names, with bags of signatures that several documents may share. -/
structure Store where
  holders : Dict Holder
  /-- The bags by number; new bags come last. -/
  bags : List (Dict Bytes)

namespace Store

def empty : Store := ⟨.empty, []⟩

def signatures (store : Store) (bag : Nat) : Dict Bytes := store.bags.getD bag .empty

def document (store : Store) (holder : Holder) : Document :=
  { holder.body with signatures := store.signatures holder.bag }

def get? (store : Store) (name : String) : Option Document :=
  (store.holders.get? name).map store.document

/-- The store with a document under a name, in a bag of its own. -/
def put (store : Store) (name : String) (document : Document) : Store where
  holders := store.holders.insert name ⟨document.toBody, store.bags.length⟩
  bags := store.bags ++ [document.signatures]

/-- The store with the document of one name under another name as well, in the same bag. -/
def share (store : Store) (source target : String) : Store :=
  match store.holders.get? source with
  | some holder => { store with holders := store.holders.insert target holder }
  | none => store

def drop (store : Store) (name : String) : Store :=
  { store with holders := store.holders.erase name }

def holderCount (store : Store) (bag : Nat) : Nat :=
  store.holders.entries.countP fun entry => entry.2.bag == bag

/-- The store with other signatures for the holder under a name. A bag that nobody else holds is
changed in place. -/
def write (store : Store) (name : String) (holder : Holder) (signatures : Dict Bytes) : Store :=
  if store.holderCount holder.bag = 1 then
    { store with bags := store.bags.set holder.bag signatures }
  else
    { holders := store.holders.insert name { holder with bag := store.bags.length }
      bags := store.bags ++ [signatures] }

/-- The store after signing the document under a name, if there is one. -/
def sign {Key : Type} (scheme : SignatureScheme Key) (store : Store) (name signer : String)
    (key : Key) : Option (Audited Store) :=
  (store.holders.get? name).map fun holder => do
    let signed ← (store.document holder).sign scheme signer key
    return store.write name holder signed.signatures

/-- The store with a signed copy of the document of one name under another name. -/
def signCopy {Key : Type} (scheme : SignatureScheme Key) (store : Store)
    (source target signer : String) (key : Key) : Option (Audited Store) :=
  (store.get? source).map fun document => do
    let signed ← document.sign scheme signer key
    return store.put target signed

def shares (store : Store) (first second : String) : Option Bool := do
  let first ← store.holders.get? first
  let second ← store.holders.get? second
  return first.bag == second.bag

end Store

end TrustRoot
