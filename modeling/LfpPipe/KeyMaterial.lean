import LfpPipe.Fallible
import LfpPipe.RemotePrograms

/-!
# Generated key material

Translated from `controlplane/cmd/lfp-connect-keygen/main.go`. A run reads the
two seed files, creates the ones that are missing and prints the public keys.
Several runs may work on one directory, any of them may stop anywhere, and any
call to the system may fail before or after its effect. A write is taken byte
by byte, which covers every way in which the system can divide it. The NKey
package and the JSON encoder are parameters.
-/

namespace LfpPipe.KeyMaterial

open Fallible TransitionRuns RemotePrograms Program

/-- The files of the secret directory. -/
inductive FileName where
  /-- The account seed. -/
  | issuerSeed
  /-- The curve seed. -/
  | xkeySeed
  /-- The public keys. -/
  | publicKeys
  deriving DecidableEq, Repr

/-- A file with the bytes that its opener is going to write, which the system
does not know. -/
structure File where
  /-- What is going to be written. -/
  planned : List UInt8
  /-- What is there. -/
  content : List UInt8
  deriving DecidableEq, Repr

/-- The secret directory. -/
abbrev Disk := FileName → Option File

/-- The NKey package. A seed is read back with or without a line ending, and
a seed that was cut off is not a seed. -/
structure Nkeys (Key : Type) where
  /-- Encode a key pair. -/
  seed : Key → Except String (List UInt8)
  /-- Decode a key pair. -/
  fromSeed : List UInt8 → Except String Key
  /-- Its public key. -/
  publicKey : Key → Except String String
  /-- A seed is read back. -/
  whole : ∀ {key : Key} {bytes : List UInt8}, seed key = .ok bytes →
    fromSeed bytes = .ok key ∧ fromSeed (bytes ++ [10]) = .ok key
  /-- A part of a seed is not read. -/
  cut : ∀ {key other : Key} {bytes part : List UInt8}, seed key = .ok bytes → part <+: bytes →
    fromSeed part = .ok other → part = bytes

/-- What is printed. -/
structure PublicKeys where
  /-- Public key of the account. -/
  issuer : String
  /-- Public key of the curve. -/
  xkey : String
  deriving DecidableEq, Repr

/-- A call to the system. -/
inductive Request where
  /-- Create the directory. -/
  | mkdirAll
  /-- Read a file. -/
  | readFile (name : FileName)
  /-- Create a key pair for a file. -/
  | create (name : FileName)
  /-- Open a file that must not exist. -/
  | openNew (name : FileName) (planned : List UInt8)
  /-- Open a file and empty it. -/
  | openTruncated (name : FileName) (planned : List UInt8)
  /-- Write one byte at a position. -/
  | writeAt (name : FileName) (offset : ℕ) (byte : UInt8)
  /-- Close a file. -/
  | close (name : FileName)
  deriving DecidableEq, Repr

/-- The answer to a call that works; a file that is missing reads as none. -/
def Reply (Key : Type) : Request → Type
  | .mkdirAll => Unit
  | .readFile _ => Option (List UInt8)
  | .create _ => Key
  | .openNew _ _ => Unit
  | .openTruncated _ _ => Unit
  | .writeAt _ _ _ => Unit
  | .close _ => Unit

/-- The answer to a call. -/
abbrev Answer (Key : Type) (request : Request) := Except String (Reply Key request)

/-- What a run does. -/
abbrev Task (Key Result : Type) := Program Request (Answer Key) Result

/-- Put one byte at a position; a gap before it is filled with zeros. -/
def putByte (content : List UInt8) (offset : ℕ) (byte : UInt8) : List UInt8 :=
  if offset < content.length then content.set offset byte
  else content ++ List.replicate (offset - content.length) 0 ++ [byte]

variable {Key : Type}

/-- How the system carries out a call; the key is the one that is created. -/
def apply (key : Key) : Service Disk Request (Answer Key)
  | disk, .mkdirAll => (disk, .ok ())
  | disk, .readFile name => (disk, .ok ((disk name).map (·.content)))
  | disk, .create _ => (disk, .ok key)
  | disk, .openNew name planned =>
    match disk name with
    | some _ => (disk, .error "file exists")
    | none => (Function.update disk name (some ⟨planned, []⟩), .ok ())
  | disk, .openTruncated name planned =>
    (Function.update disk name (some ⟨planned, []⟩), .ok ())
  | disk, .writeAt name offset byte =>
    (Function.update disk name ((disk name).map fun file =>
      { file with content := putByte file.content offset byte }), .ok ())
  | disk, .close _ => (disk, .ok ())

/-- What becomes of a call, and the key that it creates. -/
abbrev Event (Key : Type) := Outcome String × Key

/-- The system with its failures. -/
def serve (event : Event Key) : Service Disk Request (Answer Key) :=
  deliver (apply event.2) event.1

/-- Make a call; its failure ends the run with a message. -/
def attempt (message : String) (request : Request) :
    Task Key (Except AnyError (Reply Key request)) :=
  send request >>= fun answer =>
    match answer with
    | .ok reply => done (.ok reply)
    | .error error => done (.error [message, error])

/-- Go on unless the run has ended. -/
def andThen {Result Next : Type} (task : Task Key (Except AnyError Result))
    (rest : Result → Task Key (Except AnyError Next)) : Task Key (Except AnyError Next) :=
  task >>= fun result =>
    match result with
    | .ok value => rest value
    | .error error => done (.error error)

/-- Write bytes from a position on. -/
def writeFrom (message : String) (name : FileName) :
    ℕ → List UInt8 → Task Key (Except AnyError Unit)
  | _, [] => done (.ok ())
  | offset, byte :: bytes =>
    andThen (attempt message (.writeAt name offset byte)) fun _ =>
      writeFrom message name (offset + 1) bytes

/-- A result of a library with a context. -/
def lift {Result : Type} (message : String) : Except String Result → Except AnyError Result
  | .ok value => .ok value
  | .error error => .error [message, error]

section

variable (nkeys : Nkeys Key)

/-- Read the key of a file, or create it. -/
def ensureKey (name : FileName) : Task Key (Except AnyError Key) :=
  andThen (attempt "read seed" (.readFile name)) fun found =>
    match found with
    | some seed => done (lift "parse existing seed" (nkeys.fromSeed seed))
    | none =>
      andThen (attempt "generate NKey" (.create name)) fun key =>
        match lift "encode NKey seed" (nkeys.seed key) with
        | .error error => done (.error error)
        | .ok seed =>
          andThen (attempt "create seed file" (.openNew name (seed ++ [10]))) fun _ =>
            writeFrom "write seed file" name 0 (seed ++ [10]) >>= fun written =>
              match written with
              | .error error => send (.close name) >>= fun _ => done (.error error)
              | .ok () =>
                andThen (attempt "close seed file" (.close name)) fun _ => done (.ok key)

variable (encode : PublicKeys → Except String (List UInt8))

/-- Write the public keys to their file. -/
def writeFile (encoded : List UInt8) : Task Key (Except AnyError Unit) :=
  andThen (attempt "write public key metadata" (.openTruncated .publicKeys encoded)) fun _ =>
    writeFrom "write public key metadata" .publicKeys 0 encoded >>= fun written =>
      match written with
      | .error error => send (.close .publicKeys) >>= fun _ => done (.error error)
      | .ok () => attempt "write public key metadata" (.close .publicKeys)

/-- The public keys of two key pairs. -/
def publicKeysOf (issuer xkey : Key) : Except AnyError PublicKeys := do
  let issuerPublic ← lift "derive issuer public key" (nkeys.publicKey issuer)
  let xkeyPublic ← lift "derive xkey public key" (nkeys.publicKey xkey)
  .ok ⟨issuerPublic, xkeyPublic⟩

/-- One run; the result is what it prints. -/
def keygen : Task Key (Except AnyError PublicKeys) :=
  andThen (attempt "create secret directory" .mkdirAll) fun _ =>
    andThen (ensureKey nkeys .issuerSeed) fun issuer =>
      andThen (ensureKey nkeys .xkeySeed) fun xkey =>
        match publicKeysOf nkeys issuer xkey with
        | .error error => done (.error error)
        | .ok keys =>
          match lift "encode public keys" (encode keys) with
          | .error error => done (.error error)
          | .ok encoded => andThen (writeFile encoded) fun _ => done (.ok keys)

/-!
## What all runs keep
-/

/-- The file is being filled with the seed of a key pair. -/
def Planned (disk : Disk) (name : FileName) (key : Key) : Prop :=
  ∃ file seed, disk name = some file ∧ nkeys.seed key = .ok seed ∧ file.planned = seed ++ [10]

/-- The public keys are those of the two seed files. -/
def PlannedKeys (disk : Disk) (keys : PublicKeys) : Prop :=
  ∃ issuer xkey, Planned nkeys disk .issuerSeed issuer ∧ Planned nkeys disk .xkeySeed xkey ∧
    publicKeysOf nkeys issuer xkey = .ok keys

/-- The directory is as it should be. -/
structure Valid (disk : Disk) : Prop where
  /-- A seed file has a beginning of the seed of some key pair. -/
  seeds : ∀ name, name ≠ .publicKeys → ∀ file, disk name = some file →
    file.content <+: file.planned ∧ ∃ key, Planned nkeys disk name key
  /-- The file of the public keys has those of the two seed files; each of its
  bytes is the right one for its position or fills a gap. -/
  published : ∀ file, disk .publicKeys = some file →
    (∃ keys, PlannedKeys nkeys disk keys ∧ encode keys = .ok file.planned) ∧
      ∀ (index : ℕ) (byte : UInt8), file.content[index]? = some byte →
        file.planned[index]? = some byte ∨ byte = 0

/-- Files stay, their writers plan the same, and seed files only grow. -/
def Keeps (before after : Disk) : Prop :=
  ∀ name file, before name = some file → ∃ grown, after name = some grown ∧
    grown.planned = file.planned ∧ (name ≠ .publicKeys → file.content <+: grown.content)

/-- What every call of a run does to a valid directory. -/
def Rely (before after : Disk) : Prop :=
  Valid nkeys encode before → Valid nkeys encode after ∧ Keeps before after

/-- The seed file can be read, and has the seed of the key pair. -/
def Holds (disk : Disk) (name : FileName) (key : Key) : Prop :=
  Planned nkeys disk name key ∧
    ∃ file, disk name = some file ∧ nkeys.fromSeed file.content = .ok key

/-- A writer has reached a position of a file. -/
def Writing (disk : Disk) (name : FileName) (planned : List UInt8) (offset : ℕ) : Prop :=
  ∃ file, disk name = some file ∧ file.planned = planned ∧
    (name ≠ .publicKeys → offset ≤ file.content.length)

end

section

variable {nkeys : Nkeys Key} {encode : PublicKeys → Except String (List UInt8)}
  {disk before middle after : Disk} {name : FileName} {key other : Key}

/-- Nothing has happened. -/
theorem Keeps.refl (disk : Disk) : Keeps disk disk :=
  fun _ file hfile => ⟨file, hfile, rfl, fun _ => List.prefix_rfl⟩

/-- One change after another. -/
theorem Keeps.trans (h : Keeps before middle) (hlater : Keeps middle after) :
    Keeps before after := by
  intro name file hfile
  obtain ⟨grown, hgrown, hplanned, hcontent⟩ := h name file hfile
  obtain ⟨last, hlast, hplanned', hcontent'⟩ := hlater name grown hgrown
  exact ⟨last, hlast, hplanned'.trans hplanned,
    fun hname => (hcontent hname).trans (hcontent' hname)⟩

/-- A file has the seed of one key pair. -/
theorem Planned.unique (h : Planned nkeys disk name key) (hother : Planned nkeys disk name other) :
    key = other := by
  obtain ⟨file, seed, hfile, hseed, hplanned⟩ := h
  obtain ⟨file', seed', hfile', hseed', hplanned'⟩ := hother
  cases hfile.symm.trans hfile'
  cases List.append_cancel_right (hplanned.symm.trans hplanned')
  exact Except.ok.inj ((nkeys.whole hseed).1.symm.trans (nkeys.whole hseed').1)

/-- It keeps that seed. -/
theorem Planned.keeps (h : Planned nkeys before name key) (hkeeps : Keeps before after) :
    Planned nkeys after name key := by
  obtain ⟨file, seed, hfile, hseed, hplanned⟩ := h
  obtain ⟨grown, hgrown, hsame, -⟩ := hkeeps name file hfile
  exact ⟨grown, seed, hgrown, hseed, hsame.trans hplanned⟩

/-- The two seed files have one pair of public keys. -/
theorem PlannedKeys.unique {keys others : PublicKeys} (h : PlannedKeys nkeys disk keys)
    (hother : PlannedKeys nkeys disk others) : keys = others := by
  obtain ⟨issuer, xkey, hissuer, hxkey, hkeys⟩ := h
  obtain ⟨issuer', xkey', hissuer', hxkey', hkeys'⟩ := hother
  cases hissuer.unique hissuer'
  cases hxkey.unique hxkey'
  exact Except.ok.inj (hkeys.symm.trans hkeys')

/-- They keep them. -/
theorem PlannedKeys.keeps {keys : PublicKeys} (h : PlannedKeys nkeys before keys)
    (hkeeps : Keeps before after) : PlannedKeys nkeys after keys := by
  obtain ⟨issuer, xkey, hissuer, hxkey, hkeys⟩ := h
  exact ⟨issuer, xkey, hissuer.keeps hkeeps, hxkey.keeps hkeeps, hkeys⟩

/-- A writer stays where it is while others write. -/
theorem Writing.keeps {planned : List UInt8} {offset : ℕ}
    (h : Writing before name planned offset) (hkeeps : Keeps before after) :
    Writing after name planned offset := by
  obtain ⟨file, hfile, hplanned, hoffset⟩ := h
  obtain ⟨grown, hgrown, hsame, hcontent⟩ := hkeeps name file hfile
  exact ⟨grown, hgrown, hsame.trans hplanned,
    fun hname => Nat.le_trans (hoffset hname) (hcontent hname).length_le⟩

/-- A beginning of a seed with its line ending that can be read is the seed,
with or without the line ending. -/
theorem parse_cases {seed content : List UInt8} (hseed : nkeys.seed key = .ok seed)
    (hcontent : content <+: seed ++ [10]) (hparse : nkeys.fromSeed content = .ok other) :
    other = key ∧ seed <+: content := by
  rcases List.prefix_concat_iff.mp hcontent with rfl | hcut
  · exact ⟨Except.ok.inj (hparse.symm.trans (nkeys.whole hseed).2), List.prefix_append _ _⟩
  · obtain rfl := nkeys.cut hseed hcut hparse
    exact ⟨Except.ok.inj (hparse.symm.trans (nkeys.whole hseed).1), List.prefix_rfl⟩

/-- A seed with or without its line ending can be read. -/
theorem parse_of_prefix {seed content : List UInt8} (hseed : nkeys.seed key = .ok seed)
    (hcontent : content <+: seed ++ [10]) (hwhole : seed <+: content) :
    nkeys.fromSeed content = .ok key := by
  rcases List.prefix_concat_iff.mp hcontent with rfl | hcut
  · exact (nkeys.whole hseed).2
  · rw [hcut.eq_of_length_le hwhole.length_le]
    exact (nkeys.whole hseed).1

/-- A seed file that can be read has the seed of the key pair that is read. -/
theorem Valid.holds (h : Valid nkeys encode disk) (hname : name ≠ .publicKeys) {file : File}
    (hfile : disk name = some file) (hparse : nkeys.fromSeed file.content = .ok other) :
    Holds nkeys disk name other := by
  obtain ⟨hcontent, key, hplanned⟩ := h.seeds name hname file hfile
  obtain ⟨file', seed, hfile', hseed, hsame⟩ := id hplanned
  cases hfile.symm.trans hfile'
  rw [hsame] at hcontent
  obtain ⟨rfl, -⟩ := parse_cases hseed hcontent hparse
  exact ⟨hplanned, file, hfile, hparse⟩

/-- It can still be read after others have written. -/
theorem Holds.keeps (h : Holds nkeys before name key) (hname : name ≠ .publicKeys)
    (hbefore : Valid nkeys encode before) (hafter : Valid nkeys encode after)
    (hkeeps : Keeps before after) : Holds nkeys after name key := by
  obtain ⟨hplanned, file, hfile, hparse⟩ := h
  refine ⟨hplanned.keeps hkeeps, ?_⟩
  obtain ⟨file', seed, hfile', hseed, hsame⟩ := hplanned
  cases hfile.symm.trans hfile'
  obtain ⟨grown, hgrown, hplanned', hcontent⟩ := hkeeps name file hfile
  have hpart := (hbefore.seeds name hname file hfile).1
  have hpart' := (hafter.seeds name hname grown hgrown).1
  rw [hsame] at hpart
  rw [hplanned', hsame] at hpart'
  obtain ⟨-, hwhole⟩ := parse_cases hseed hpart hparse
  exact ⟨grown, hgrown, parse_of_prefix hseed hpart' (hwhole.trans (hcontent hname))⟩

/-- A change of one file that does not change what is planned. -/
theorem keeps_update {file changed : File} (hfile : disk name = some file)
    (hplanned : changed.planned = file.planned)
    (hcontent : name ≠ .publicKeys → file.content <+: changed.content) :
    Keeps disk (Function.update disk name (some changed)) := by
  intro other present hpresent
  by_cases hother : other = name
  · subst hother
    cases hfile.symm.trans hpresent
    exact ⟨changed, Function.update_self .., hplanned, hcontent⟩
  · refine ⟨present, ?_, rfl, fun _ => List.prefix_rfl⟩
    rw [Function.update_of_ne hother]
    exact hpresent

/-- A file that was not there is no change of another one. -/
theorem keeps_create {created : File} (hfile : disk name = none) :
    Keeps disk (Function.update disk name (some created)) := by
  intro other present hpresent
  by_cases hother : other = name
  · subst hother
    rw [hfile] at hpresent
    cases hpresent
  · refine ⟨present, ?_, rfl, fun _ => List.prefix_rfl⟩
    rw [Function.update_of_ne hother]
    exact hpresent

/-- A changed file that is as it should be leaves the directory valid. -/
theorem Valid.update (h : Valid nkeys encode disk) {file : File}
    (hkeeps : Keeps disk (Function.update disk name (some file)))
    (hseed : name ≠ .publicKeys → file.content <+: file.planned ∧
      ∃ key, Planned nkeys (Function.update disk name (some file)) name key)
    (hpublic : name = .publicKeys →
      (∃ keys, PlannedKeys nkeys disk keys ∧ encode keys = .ok file.planned) ∧
        ∀ (index : ℕ) (byte : UInt8), file.content[index]? = some byte →
          file.planned[index]? = some byte ∨ byte = 0) :
    Valid nkeys encode (Function.update disk name (some file)) := by
  constructor
  · intro other hother present hpresent
    by_cases hsame : other = name
    · subst hsame
      rw [Function.update_self] at hpresent
      cases hpresent
      exact hseed hother
    · rw [Function.update_of_ne hsame] at hpresent
      obtain ⟨hcontent, key, hplanned⟩ := h.seeds other hother present hpresent
      exact ⟨hcontent, key, hplanned.keeps hkeeps⟩
  · intro present hpresent
    by_cases hsame : FileName.publicKeys = name
    · subst hsame
      rw [Function.update_self] at hpresent
      cases hpresent
      obtain ⟨⟨keys, hkeys, hencode⟩, hbytes⟩ := hpublic rfl
      exact ⟨⟨keys, hkeys.keeps hkeeps, hencode⟩, hbytes⟩
    · rw [Function.update_of_ne hsame] at hpresent
      obtain ⟨⟨keys, hkeys, hencode⟩, hbytes⟩ := h.published present hpresent
      exact ⟨⟨keys, hkeys.keeps hkeeps, hencode⟩, hbytes⟩

/-- A writer that continues what is there leaves a longer beginning. -/
theorem putByte_written {content written rest : List UInt8} {byte : UInt8}
    (hcontent : content <+: written ++ byte :: rest) (hoffset : written.length ≤ content.length) :
    content <+: putByte content written.length byte ∧
      putByte content written.length byte <+: written ++ byte :: rest ∧
      written.length + 1 ≤ (putByte content written.length byte).length := by
  rw [putByte]
  by_cases hinside : written.length < content.length
  · obtain ⟨tail, htail⟩ := hcontent
    have hthere : (content ++ tail)[written.length]? = some byte := by
      rw [htail, List.getElem?_append_right (Nat.le_refl _), Nat.sub_self]
      rfl
    rw [List.getElem?_append_left hinside] at hthere
    have hsame : content.set written.length byte = content := by
      obtain ⟨hbound, hbyte⟩ := List.getElem?_eq_some_iff.mp hthere
      rw [←hbyte]
      exact List.set_getElem_self hbound
    rw [if_pos hinside, hsame]
    exact ⟨List.prefix_rfl, ⟨tail, htail⟩, hinside⟩
  · have hlength : content.length = written.length := by omega
    have hsame : content = written := by
      have hpart : written <+: written ++ byte :: rest := List.prefix_append _ _
      exact (List.prefix_of_prefix_length_le hcontent hpart
        (Nat.le_of_eq hlength)).eq_of_length hlength
    subst hsame
    rw [if_neg hinside, Nat.sub_self, List.replicate_zero, List.append_nil]
    refine ⟨List.prefix_append _ _, ⟨rest, ?_⟩, ?_⟩
    · rw [List.append_assoc]
      rfl
    · rw [List.length_append]
      exact Nat.le_refl _

/-- A byte of a written file is the new one, an old one, or fills a gap. -/
theorem putByte_cases {content : List UInt8} {offset index : ℕ} {byte found : UInt8}
    (h : (putByte content offset byte)[index]? = some found) :
    (index = offset ∧ found = byte) ∨ content[index]? = some found ∨ found = 0 := by
  rw [putByte] at h
  by_cases hinside : offset < content.length
  · rw [if_pos hinside, List.getElem?_set] at h
    by_cases hindex : offset = index
    · subst hindex
      rw [if_pos rfl, if_pos hinside] at h
      exact .inl ⟨rfl, (Option.some.inj h).symm⟩
    · rw [if_neg hindex] at h
      exact .inr (.inl h)
  · rw [if_neg hinside] at h
    rcases Nat.lt_or_ge index content.length with hold | hnew
    · rw [List.append_assoc, List.getElem?_append_left hold] at h
      exact .inr (.inl h)
    · have hlength : (content ++ List.replicate (offset - content.length) 0).length = offset := by
        rw [List.length_append, List.length_replicate]
        omega
      rcases Nat.lt_or_ge index offset with hgap | hlast
      · rw [List.getElem?_append_left (hlength.symm ▸ hgap), List.getElem?_append_right hnew,
          List.getElem?_replicate] at h
        split at h
        · exact .inr (.inr (Option.some.inj h).symm)
        · cases h
      · rw [List.getElem?_append_right (hlength.symm ▸ hlast), hlength] at h
        obtain ⟨hbound, hbyte⟩ := List.getElem?_eq_some_iff.mp h
        rw [List.length_singleton] at hbound
        refine .inl ⟨by omega, ?_⟩
        rw [←hbyte]
        exact List.getElem_singleton ..

/-- A writer that continues keeps the directory valid, and goes on. -/
theorem Writing.put (created : Key) {written rest : List UInt8} {byte : UInt8}
    (hvalid : Valid nkeys encode disk)
    (h : Writing disk name (written ++ byte :: rest) written.length) :
    Valid nkeys encode (apply created disk (.writeAt name written.length byte)).1 ∧
      Keeps disk (apply created disk (.writeAt name written.length byte)).1 ∧
      Writing (apply created disk (.writeAt name written.length byte)).1 name
        (written ++ byte :: rest) (written.length + 1) := by
  obtain ⟨file, hfile, hplanned, hoffset⟩ := h
  have happly : (apply created disk (.writeAt name written.length byte)).1 =
      Function.update disk name
        (some { file with content := putByte file.content written.length byte }) := by
    rw [apply, hfile]
    rfl
  have hpart : name ≠ .publicKeys → file.content <+: written ++ byte :: rest := by
    intro hname
    rw [←hplanned]
    exact (hvalid.seeds name hname file hfile).1
  have hkeeps : Keeps disk (Function.update disk name
      (some { file with content := putByte file.content written.length byte })) :=
    keeps_update hfile rfl fun hname => (putByte_written (hpart hname) (hoffset hname)).1
  rw [happly]
  refine ⟨hvalid.update hkeeps ?_ ?_, hkeeps, ?_⟩
  · intro hname
    obtain ⟨-, key, hseed⟩ := hvalid.seeds name hname file hfile
    refine ⟨?_, key, hseed.keeps hkeeps⟩
    dsimp only
    rw [hplanned]
    exact (putByte_written (hpart hname) (hoffset hname)).2.1
  · rintro rfl
    obtain ⟨hkeys, hbytes⟩ := hvalid.published file hfile
    refine ⟨hkeys, fun index found hfound => ?_⟩
    rcases putByte_cases hfound with ⟨rfl, rfl⟩ | hold | hzero
    · left
      dsimp only
      rw [hplanned, List.getElem?_append_right (Nat.le_refl _), Nat.sub_self]
      rfl
    · exact hbytes index found hold
    · exact .inr hzero
  · exact ⟨_, Function.update_self .., hplanned, fun hname =>
      (putByte_written (hpart hname) (hoffset hname)).2.2⟩

/-- A new seed file keeps the directory valid. -/
theorem Valid.openNew {seed : List UInt8} (h : Valid nkeys encode disk)
    (hname : name ≠ .publicKeys) (hfile : disk name = none) (hseed : nkeys.seed key = .ok seed) :
    Valid nkeys encode (Function.update disk name (some ⟨seed ++ [10], []⟩)) := by
  refine h.update (keeps_create hfile) ?_ fun hpublic => absurd hpublic hname
  intro _
  exact ⟨List.nil_prefix, key, _, seed, Function.update_self .., hseed, rfl⟩

/-- The public file is opened to write what it already had. -/
theorem Valid.openTruncated {keys : PublicKeys} {encoded : List UInt8}
    (h : Valid nkeys encode disk) (hkeys : PlannedKeys nkeys disk keys)
    (hencoded : encode keys = .ok encoded) :
    Valid nkeys encode (Function.update disk .publicKeys (some ⟨encoded, []⟩)) ∧
      Keeps disk (Function.update disk .publicKeys (some ⟨encoded, []⟩)) := by
  have hkeeps : Keeps disk (Function.update disk .publicKeys (some ⟨encoded, []⟩)) := by
    cases hfile : disk .publicKeys with
    | none => exact keeps_create hfile
    | some file =>
      obtain ⟨⟨others, hothers, hplanned⟩, -⟩ := h.published file hfile
      cases hkeys.unique hothers
      exact keeps_update hfile (Except.ok.inj (hencoded.symm.trans hplanned))
        fun hname => absurd rfl hname
  refine ⟨h.update hkeeps (fun hname => absurd rfl hname) ?_, hkeeps⟩
  intro _
  refine ⟨⟨keys, hkeys, hencoded⟩, fun index byte hbyte => ?_⟩
  rw [List.getElem?_nil] at hbyte
  cases hbyte

end

/-!
## One run among others
-/

section

variable (nkeys : Nkeys Key) (encode : PublicKeys → Except String (List UInt8))

/-- Whatever other runs do, every call keeps what all runs keep, and the task
ends as it should. -/
abbrev Achieves {Result : Type} (post : Result → Disk → Prop) (task : Task Key Result)
    (disk : Disk) : Prop :=
  Meets serve (fun _ _ _ => True) (Rely nkeys encode) post task disk

end

section

variable {nkeys : Nkeys Key} {encode : PublicKeys → Except String (List UInt8)} {disk : Disk}
  {name : FileName} {key : Key} {Result Next : Type}

/-- A call that works, fails without an effect, or fails after it. -/
theorem achieves_attempt {message : String} {request : Request}
    {post : Except AnyError (Reply Key request) → Disk → Prop} (hvalid : Valid nkeys encode disk)
    (hstep : ∀ later, Valid nkeys encode later → Keeps disk later → ∀ created : Key,
      Valid nkeys encode (apply created later request).1 ∧
        Keeps later (apply created later request).1 ∧
        ∀ reply, (apply created later request).2 = .ok reply →
          post (.ok reply) (apply created later request).1)
    (hfail : ∀ error later, Valid nkeys encode later → post (.error error) later) :
    Achieves nkeys encode post (attempt message request) disk := by
  intro later hlater event _
  obtain ⟨hlater, hkeeps⟩ := hlater hvalid
  obtain ⟨outcome, created⟩ := event
  obtain ⟨hafter, hkept, hpost⟩ := hstep later hlater hkeeps created
  cases outcome with
  | answered =>
    refine ⟨fun _ => ⟨hafter, hkept⟩, ?_⟩
    simp only [serve, deliver]
    cases hreply : (apply created later request).2 with
    | ok reply => exact hpost reply hreply
    | error error => exact hfail _ _ hafter
  | refused failure => exact ⟨fun _ => ⟨hlater, Keeps.refl later⟩, hfail _ _ hlater⟩
  | lost failure => exact ⟨fun _ => ⟨hafter, hkept⟩, hfail _ _ hafter⟩

/-- A call that changes nothing. -/
theorem achieves_idle {message : String} {request : Request}
    (hidle : ∀ (created : Key) disk, (apply created disk request).1 = disk)
    (hvalid : Valid nkeys encode disk) :
    Achieves nkeys encode (fun _ disk => Valid nkeys encode disk)
      (attempt message request : Task Key _) disk := by
  refine achieves_attempt hvalid (fun later hlater _ created => ?_) fun _ _ hlater => hlater
  rw [hidle]
  exact ⟨hlater, Keeps.refl later, fun _ _ => hlater⟩

/-- A sequence ends early or goes on. -/
theorem achieves_andThen {mid : Except AnyError Result → Disk → Prop}
    {post : Except AnyError Next → Disk → Prop} {task : Task Key (Except AnyError Result)}
    {rest : Result → Task Key (Except AnyError Next)} (h : Achieves nkeys encode mid task disk)
    (hrest : ∀ value disk, mid (.ok value) disk → Achieves nkeys encode post (rest value) disk)
    (hfail : ∀ error disk, mid (.error error) disk → post (.error error) disk) :
    Achieves nkeys encode post (andThen task rest) disk := by
  refine h.bind fun result disk hmid => ?_
  cases result with
  | ok value => exact hrest value disk hmid
  | error error => exact hfail error disk hmid

/-- A file is closed after a failure. -/
theorem achieves_abandon {error : AnyError} {post : Except AnyError Result → Disk → Prop}
    (hvalid : Valid nkeys encode disk)
    (hpost : ∀ disk, Valid nkeys encode disk → post (.error error) disk) :
    Achieves nkeys encode post
      ((send (.close name) : Task Key _) >>= fun _ => done (.error error)) disk := by
  intro later hlater event _
  obtain ⟨hlater, -⟩ := hlater hvalid
  have hsame : (serve event later (.close name)).1 = later := by
    obtain ⟨outcome, created⟩ := event
    cases outcome <;> rfl
  rw [hsame]
  exact ⟨fun _ => ⟨hlater, Keeps.refl later⟩, hpost later hlater⟩

/-- Bytes are written one by one, whatever other runs write. -/
theorem writeFrom_achieves {message : String} {bytes written : List UInt8}
    (hvalid : Valid nkeys encode disk)
    (h : Writing disk name (written ++ bytes) written.length) :
    Achieves nkeys encode (fun result disk => Valid nkeys encode disk ∧
        (result = .ok () → Writing disk name (written ++ bytes) (written ++ bytes).length))
      (writeFrom message name written.length bytes : Task Key _) disk := by
  induction bytes generalizing disk written with
  | nil =>
    refine ⟨hvalid, fun _ => ?_⟩
    rw [List.append_nil] at h ⊢
    exact h
  | cons byte bytes ih =>
    have hput : Achieves nkeys encode (fun result disk => Valid nkeys encode disk ∧
          ∀ reply, result = .ok reply →
            Writing disk name (written ++ byte :: bytes) (written.length + 1))
        (attempt message (.writeAt name written.length byte) : Task Key _) disk := by
      refine achieves_attempt hvalid (fun later hlater hkeeps created => ?_) fun _ _ hlater => ?_
      · obtain ⟨hafter, hkept, hwriting⟩ := (h.keeps hkeeps).put created hlater
        exact ⟨hafter, hkept, fun _ _ => ⟨hafter, fun _ _ => hwriting⟩⟩
      · exact ⟨hlater, fun _ hok => by cases hok⟩
    refine achieves_andThen hput (fun _ later hmid => ?_) fun error later hmid => ?_
    · have hwriting := hmid.2 () rfl
      have happend : written ++ byte :: bytes = (written ++ [byte]) ++ bytes := by
        rw [List.append_assoc]
        rfl
      have hlength : written.length + 1 = (written ++ [byte]).length := by
        rw [List.length_append]
        rfl
      rw [happend, hlength] at hwriting ⊢
      exact ih hmid.1 hwriting
    · exact ⟨hmid.1, fun hok => by cases hok⟩

/-- A file that was written to its end has the seed. -/
theorem Writing.holds {seed : List UInt8} (hvalid : Valid nkeys encode disk)
    (hname : name ≠ .publicKeys) (hseed : nkeys.seed key = .ok seed)
    (h : Writing disk name (seed ++ [10]) (seed ++ [10]).length) : Holds nkeys disk name key := by
  obtain ⟨file, hfile, hplanned, hoffset⟩ := h
  have hcontent := (hvalid.seeds name hname file hfile).1
  rw [hplanned] at hcontent
  refine ⟨⟨file, seed, hfile, hseed, hplanned⟩, file, hfile, ?_⟩
  rw [hcontent.eq_of_length_le (hoffset hname)]
  exact (nkeys.whole hseed).2

/-- What has been achieved for a seed file stays. -/
theorem holds_rely {before after : Disk} (hname : name ≠ .publicKeys)
    (hrely : Rely nkeys encode before after)
    (h : Valid nkeys encode before ∧ Holds nkeys before name key) :
    Valid nkeys encode after ∧ Holds nkeys after name key := by
  obtain ⟨hafter, hkeeps⟩ := hrely h.1
  exact ⟨hafter, h.2.keeps hname h.1 hafter hkeeps⟩

/-- A seed is written to a new file. -/
theorem createSeed_achieves {seed : List UInt8} (hname : name ≠ .publicKeys)
    (hseed : nkeys.seed key = .ok seed) (hvalid : Valid nkeys encode disk) :
    Achieves nkeys encode (fun result disk => Valid nkeys encode disk ∧
        ∀ found, result = .ok found → Holds nkeys disk name found)
      (andThen (attempt "create seed file" (.openNew name (seed ++ [10]))) fun _ =>
        writeFrom "write seed file" name 0 (seed ++ [10]) >>= fun written =>
          match written with
          | .error error => send (.close name) >>= fun _ => done (.error error)
          | .ok () =>
            andThen (attempt "close seed file" (.close name)) fun _ => done (.ok key)) disk := by
  have hopen : Achieves nkeys encode (fun result disk => Valid nkeys encode disk ∧
        ∀ reply, result = .ok reply → Writing disk name (seed ++ [10]) 0)
      (attempt "create seed file" (.openNew name (seed ++ [10])) : Task Key _) disk := by
    refine achieves_attempt hvalid (fun later hlater _ created => ?_) fun _ _ hlater => ?_
    · rw [apply]
      cases hfile : later name with
      | some file => exact ⟨hlater, Keeps.refl later, fun _ hok => by cases hok⟩
      | none =>
        have hafter := hlater.openNew hname hfile hseed
        refine ⟨hafter, keeps_create hfile, fun _ _ => ⟨hafter, fun _ _ => ?_⟩⟩
        exact ⟨_, Function.update_self .., rfl, fun _ => Nat.zero_le _⟩
    · exact ⟨hlater, fun _ hok => by cases hok⟩
  refine achieves_andThen hopen (fun _ later hmid => ?_) fun error later hmid => ?_
  · have hwriting : Writing later name ([] ++ (seed ++ [10])) ([] : List UInt8).length :=
      hmid.2 () rfl
    refine (writeFrom_achieves hmid.1 hwriting).bind fun written later hwritten => ?_
    cases written with
    | error error =>
      exact achieves_abandon hwritten.1 fun disk hdisk => ⟨hdisk, fun _ hok => by cases hok⟩
    | ok _ =>
      have hholds := (hwritten.2 rfl).holds hwritten.1 hname hseed
      have hidle : Achieves nkeys encode (fun _ disk => Valid nkeys encode disk)
          (attempt "close seed file" (.close name) : Task Key _) later :=
        achieves_idle (fun _ _ => rfl) hwritten.1
      have hclosed := Meets.frame (fun disk => Valid nkeys encode disk ∧ Holds nkeys disk name key)
        (holds_rely hname) hidle ⟨hwritten.1, hholds⟩
      refine achieves_andThen hclosed (fun _ last hlast => ?_) fun error last hlast => ?_
      · refine ⟨hlast.1, fun found hfound => ?_⟩
        cases hfound
        exact hlast.2.2
      · exact ⟨hlast.1, fun _ hok => by cases hok⟩
  · exact ⟨hmid.1, fun _ hok => by cases hok⟩

/-- A run reads the key of a file or creates it, whatever other runs do. -/
theorem ensureKey_achieves (hname : name ≠ .publicKeys) (hvalid : Valid nkeys encode disk) :
    Achieves nkeys encode (fun result disk => Valid nkeys encode disk ∧
        ∀ found, result = .ok found → Holds nkeys disk name found)
      (ensureKey nkeys name) disk := by
  have hread : Achieves nkeys encode (fun result disk => Valid nkeys encode disk ∧
        ∀ bytes, result = .ok (some bytes) →
          ∃ file, disk name = some file ∧ file.content = bytes)
      (attempt "read seed" (.readFile name) : Task Key _) disk := by
    refine achieves_attempt hvalid (fun later hlater _ created => ?_) fun _ _ hlater => ?_
    · refine ⟨hlater, Keeps.refl later, fun reply hreply => ⟨hlater, fun bytes hbytes => ?_⟩⟩
      have hfound : (later name).map (·.content) = some bytes := by
        rw [←Except.ok.inj hbytes]
        exact Except.ok.inj hreply
      exact Option.map_eq_some_iff.mp hfound
    · exact ⟨hlater, fun _ hok => by cases hok⟩
  refine achieves_andThen hread (fun found later hmid => ?_) fun error later hmid => ?_
  · cases found with
    | some bytes =>
      obtain ⟨file, hfile, rfl⟩ := hmid.2 bytes rfl
      refine ⟨hmid.1, fun key hkey => ?_⟩
      cases hparse : nkeys.fromSeed file.content with
      | error error =>
        rw [hparse] at hkey
        cases hkey
      | ok parsed =>
        rw [hparse] at hkey
        cases hkey
        exact hmid.1.holds hname hfile hparse
    | none =>
      refine achieves_andThen (achieves_idle (fun _ _ => rfl) hmid.1) (fun key last hlast => ?_)
        fun error last hlast => ?_
      · cases hseed : nkeys.seed key with
        | error error =>
          refine ⟨hlast, fun found hfound => ?_⟩
          cases hfound
        | ok seed => exact createSeed_achieves hname hseed hlast
      · exact ⟨hlast, fun _ hok => by cases hok⟩
  · exact ⟨hmid.1, fun _ hok => by cases hok⟩

/-- The two seed files can be read, and have the key pairs with these public keys. -/
def Stored (nkeys : Nkeys Key) (disk : Disk) (keys : PublicKeys) : Prop :=
  ∃ issuer xkey, Holds nkeys disk .issuerSeed issuer ∧ Holds nkeys disk .xkeySeed xkey ∧
    publicKeysOf nkeys issuer xkey = .ok keys

/-- Stored keys are those of the seed files. -/
theorem Stored.planned {keys : PublicKeys} (h : Stored nkeys disk keys) :
    PlannedKeys nkeys disk keys := by
  obtain ⟨issuer, xkey, hissuer, hxkey, hkeys⟩ := h
  exact ⟨issuer, xkey, hissuer.1, hxkey.1, hkeys⟩

/-- They stay stored. -/
theorem stored_rely {keys : PublicKeys} {before after : Disk}
    (hrely : Rely nkeys encode before after)
    (h : Valid nkeys encode before ∧ Stored nkeys before keys) :
    Valid nkeys encode after ∧ Stored nkeys after keys := by
  obtain ⟨hvalid, issuer, xkey, hissuer, hxkey, hkeys⟩ := h
  obtain ⟨hafter, hissuer'⟩ := holds_rely (by decide) hrely ⟨hvalid, hissuer⟩
  obtain ⟨-, hxkey'⟩ := holds_rely (by decide) hrely ⟨hvalid, hxkey⟩
  exact ⟨hafter, issuer, xkey, hissuer', hxkey', hkeys⟩

/-- A writer that was somewhere stays there. -/
theorem writing_rely {before after : Disk} {planned : List UInt8} {offset : ℕ}
    (hrely : Rely nkeys encode before after)
    (h : Valid nkeys encode before ∧ Writing before name planned offset) :
    Valid nkeys encode after ∧ Writing after name planned offset := by
  obtain ⟨hafter, hkeeps⟩ := hrely h.1
  exact ⟨hafter, h.2.keeps hkeeps⟩

/-- The public keys are written to their file, whatever other runs do. -/
theorem writeFile_achieves {keys : PublicKeys} {encoded : List UInt8}
    (hencoded : encode keys = .ok encoded) (hvalid : Valid nkeys encode disk)
    (hkeys : Stored nkeys disk keys) :
    Achieves nkeys encode (fun result disk => Valid nkeys encode disk ∧
        (result = .ok () → Writing disk .publicKeys encoded 0))
      (writeFile encoded : Task Key _) disk := by
  have hopen : Achieves nkeys encode (fun result disk => Valid nkeys encode disk ∧
        ∀ reply, result = .ok reply → Writing disk .publicKeys encoded 0)
      (attempt "write public key metadata" (.openTruncated .publicKeys encoded) : Task Key _)
      disk := by
    refine achieves_attempt hvalid (fun later hlater hkeeps created => ?_) fun _ _ hlater => ?_
    · obtain ⟨hafter, hkept⟩ := hlater.openTruncated (hkeys.planned.keeps hkeeps) hencoded
      refine ⟨hafter, hkept, fun _ _ => ⟨hafter, fun _ _ => ?_⟩⟩
      exact ⟨⟨encoded, []⟩, Function.update_self (.publicKeys : FileName) _ later, rfl,
        fun _ => Nat.zero_le _⟩
    · exact ⟨hlater, fun _ hok => by cases hok⟩
  refine achieves_andThen hopen (fun _ later hmid => ?_) fun error later hmid => ?_
  · have hwriting : Writing later .publicKeys ([] ++ encoded) ([] : List UInt8).length :=
      hmid.2 () rfl
    refine (writeFrom_achieves hmid.1 hwriting).bind fun written later hwritten => ?_
    cases written with
    | error error =>
      exact achieves_abandon hwritten.1 fun disk hdisk => ⟨hdisk, fun hok => by cases hok⟩
    | ok _ =>
      obtain ⟨file, hfile, hplanned, -⟩ := hwritten.2 rfl
      have hidle : Achieves nkeys encode (fun _ disk => Valid nkeys encode disk)
          (attempt "write public key metadata" (.close .publicKeys) : Task Key _) later :=
        achieves_idle (fun _ _ => rfl) hwritten.1
      have hclosed := Meets.frame
        (fun disk => Valid nkeys encode disk ∧ Writing disk .publicKeys encoded 0)
        writing_rely hidle ⟨hwritten.1, file, hfile, hplanned, fun _ => Nat.zero_le _⟩
      exact hclosed.weaken fun result last hlast => ⟨hlast.1, fun _ => hlast.2.2⟩
  · exact ⟨hmid.1, fun hok => by cases hok⟩

/-- What a run that prints public keys leaves in the directory. -/
def Printed (nkeys : Nkeys Key) (encode : PublicKeys → Except String (List UInt8)) (disk : Disk)
    (keys : PublicKeys) : Prop :=
  Stored nkeys disk keys ∧
    ∃ encoded, encode keys = .ok encoded ∧ Writing disk .publicKeys encoded 0

/-- A run prints the public keys of the seed files, whatever other runs do. -/
theorem keygen_achieves (hvalid : Valid nkeys encode disk) :
    Achieves nkeys encode (fun result disk => Valid nkeys encode disk ∧
        ∀ keys, result = .ok keys → Printed nkeys encode disk keys)
      (keygen nkeys encode) disk := by
  refine achieves_andThen (achieves_idle (fun _ _ => rfl) hvalid) (fun _ disk hvalid => ?_)
    fun error disk hvalid => ⟨hvalid, fun _ hok => by cases hok⟩
  refine achieves_andThen (ensureKey_achieves (by decide) hvalid) (fun issuer disk hissuer => ?_)
    fun error disk hmid => ⟨hmid.1, fun _ hok => by cases hok⟩
  have hensured : Achieves nkeys encode (fun result disk => Valid nkeys encode disk ∧
        ∀ found, result = .ok found → Holds nkeys disk .xkeySeed found)
      (ensureKey nkeys .xkeySeed) disk := ensureKey_achieves (by decide) hissuer.1
  have hxkey := Meets.frame
    (fun disk => Valid nkeys encode disk ∧ Holds nkeys disk .issuerSeed issuer)
    (holds_rely (by decide)) hensured ⟨hissuer.1, hissuer.2 issuer rfl⟩
  refine achieves_andThen hxkey (fun xkey disk hmid => ?_)
    fun error disk hmid => ⟨hmid.2.1, fun _ hok => by cases hok⟩
  obtain ⟨⟨-, hxkey⟩, hvalid, hissuer⟩ := hmid
  cases hkeys : publicKeysOf nkeys issuer xkey with
  | error error => exact ⟨hvalid, fun _ hok => by cases hok⟩
  | ok keys =>
    dsimp only
    cases hencoded : encode keys with
    | error error => exact ⟨hvalid, fun _ hok => by cases hok⟩
    | ok encoded =>
      have hstored : Stored nkeys disk keys := ⟨issuer, xkey, hissuer, hxkey xkey rfl, hkeys⟩
      have hwritten := Meets.frame (fun disk => Valid nkeys encode disk ∧ Stored nkeys disk keys)
        stored_rely (writeFile_achieves hencoded hvalid hstored) ⟨hvalid, hstored⟩
      refine achieves_andThen hwritten (fun _ last hlast => ?_)
        fun error last hlast => ⟨hlast.1.1, fun _ hok => by cases hok⟩
      refine ⟨hlast.1.1, fun found hfound => ?_⟩
      cases hfound
      exact ⟨hlast.2.2, encoded, hencoded, hlast.1.2 rfl⟩

end

/-!
## All runs
-/

section

variable {nkeys : Nkeys Key} {encode : PublicKeys → Except String (List UInt8)}

/-- An empty directory with any number of runs that have not started. -/
def runs (nkeys : Nkeys Key) (encode : PublicKeys → Except String (List UInt8)) :
    Disk × (ℕ → Task Key (Except AnyError PublicKeys)) :=
  (fun _ => none, fun _ => keygen nkeys encode)

/-- An empty directory is as it should be. -/
theorem valid_empty : Valid nkeys encode fun _ => none := by
  constructor
  · intro name _ file hfile
    cases hfile
  · intro file hfile
    cases hfile

/-- What runs have printed agrees, is what the seed files have, and is all that
the file of the public keys has. -/
structure Agreed (nkeys : Nkeys Key) (encode : PublicKeys → Except String (List UInt8))
    (system : Disk × (ℕ → Task Key (Except AnyError PublicKeys))) : Prop where
  /-- Two runs print the same public keys. -/
  same : ∀ run other keys others, system.2 run = done (.ok keys) →
    system.2 other = done (.ok others) → keys = others
  /-- They are those of the seed files. -/
  stored : ∀ run keys, system.2 run = done (.ok keys) →
    ∃ issuerFile xkeyFile issuer xkey, system.1 .issuerSeed = some issuerFile ∧
      system.1 .xkeySeed = some xkeyFile ∧ nkeys.fromSeed issuerFile.content = .ok issuer ∧
      nkeys.fromSeed xkeyFile.content = .ok xkey ∧ publicKeysOf nkeys issuer xkey = .ok keys
  /-- They are in their file, up to bytes that are missing or fill a gap. -/
  published : ∀ run keys, system.2 run = done (.ok keys) → ∃ file encoded,
    system.1 .publicKeys = some file ∧ encode keys = .ok encoded ∧
      ∀ (index : ℕ) (byte : UInt8), file.content[index]? = some byte →
        encoded[index]? = some byte ∨ byte = 0
  /-- Their file never has bytes of other keys than those that the seed files are
  written with, whether a run has printed them or not. -/
  written : ∀ file, system.1 .publicKeys = some file → ∃ keys encoded,
    PlannedKeys nkeys system.1 keys ∧ encode keys = .ok encoded ∧
      ∀ (index : ℕ) (byte : UInt8), file.content[index]? = some byte →
        encoded[index]? = some byte ∨ byte = 0

/-- Runs that have done what they should agree. -/
theorem agreed_of_achieved {system : Disk × (ℕ → Task Key (Except AnyError PublicKeys))}
    (hdisk : Valid nkeys encode system.1)
    (h : ∀ run keys, system.2 run = done (.ok keys) →
      Valid nkeys encode system.1 ∧ Printed nkeys encode system.1 keys) :
    Agreed nkeys encode system := by
  constructor
  · intro run other keys others hkeys hothers
    exact (h run keys hkeys).2.1.planned.unique (h other others hothers).2.1.planned
  · intro run keys hkeys
    obtain ⟨-, ⟨issuer, xkey, ⟨-, issuerFile, hissuerFile, hissuer⟩, ⟨-, xkeyFile, hxkeyFile,
      hxkey⟩, hpublic⟩, -⟩ := h run keys hkeys
    exact ⟨issuerFile, xkeyFile, issuer, xkey, hissuerFile, hxkeyFile, hissuer, hxkey, hpublic⟩
  · intro run keys hkeys
    obtain ⟨hvalid, -, encoded, hencoded, file, hfile, hplanned, -⟩ := h run keys hkeys
    refine ⟨file, encoded, hfile, hencoded, fun index byte hbyte => ?_⟩
    rw [←hplanned]
    exact (hvalid.published file hfile).2 index byte hbyte
  · intro file hfile
    obtain ⟨⟨keys, hplanned, hencoded⟩, hbytes⟩ := hdisk.published file hfile
    exact ⟨keys, file.planned, hplanned, hencoded, hbytes⟩

/-- However runs of the key generator are interleaved, cut off or made to fail,
all that print something print the same public keys, which are those of the
seed files; a seed file is never replaced and only grows, and the file of the
public keys never has bytes of other keys. -/
theorem key_material_agrees (nkeys : Nkeys Key)
    (encode : PublicKeys → Except String (List UInt8)) {earlier later : List (ℕ × Event Key)}
    {middle last : Disk × (ℕ → Task Key (Except AnyError PublicKeys))}
    (hmiddle : run (interleave serve) (runs nkeys encode) earlier = some middle)
    (hlast : run (interleave serve) middle later = some last) :
    Agreed nkeys encode last ∧
      ∀ name, name ≠ .publicKeys → ∀ file, middle.1 name = some file →
        ∃ grown, last.1 name = some grown ∧ file.content <+: grown.content := by
  have hrefl : ∀ disk, Rely nkeys encode disk disk := fun disk hvalid => ⟨hvalid, Keeps.refl disk⟩
  have htrans : ∀ {a b c : Disk}, Rely nkeys encode a b → Rely nkeys encode b c →
      Rely nkeys encode a c := by
    intro a b c hab hbc hvalid
    obtain ⟨hb, hkeeps⟩ := hab hvalid
    obtain ⟨hc, hkeeps'⟩ := hbc hb
    exact ⟨hc, hkeeps.trans hkeeps'⟩
  have hstable : ∀ (_ : ℕ) (result : Except AnyError PublicKeys) {a b : Disk},
      Rely nkeys encode a b →
      (Valid nkeys encode a ∧ ∀ keys, result = .ok keys → Printed nkeys encode a keys) →
      Valid nkeys encode b ∧ ∀ keys, result = .ok keys → Printed nkeys encode b keys := by
    intro _ result a b hrely hpost
    refine ⟨(hrely hpost.1).1, fun keys hkeys => ?_⟩
    obtain ⟨hstored, encoded, hencoded, hwriting⟩ := hpost.2 keys hkeys
    exact ⟨(stored_rely hrely ⟨hpost.1, hstored⟩).2, encoded, hencoded,
      (writing_rely hrely ⟨hpost.1, hwriting⟩).2⟩
  have hguard : ∀ (start : Disk × (ℕ → Task Key (Except AnyError PublicKeys)))
      (events : List (ℕ × Event Key)),
      Guarded (interleave serve) (CallAllowed fun _ _ _ => True) start events := by
    intro start events
    induction events generalizing start with
    | nil => trivial
    | cons event events ih => exact ⟨fun _ _ _ => trivial, fun next _ => ih next⟩
  obtain ⟨hrely, hmeets⟩ := interleave_meets hrefl htrans hstable
    (fun _ => keygen_achieves valid_empty) (hguard _ earlier) hmiddle
  have hvalid : Valid nkeys encode middle.1 := (hrely valid_empty).1
  obtain ⟨hrely', hmeets'⟩ := interleave_meets hrefl htrans hstable hmeets (hguard _ later) hlast
  refine ⟨agreed_of_achieved (hrely' hvalid).1 fun name keys hkeys => ?_,
    fun name hname file hfile => ?_⟩
  · have hpost := hmeets' name
    rw [hkeys] at hpost
    exact ⟨hpost.1, hpost.2 keys rfl⟩
  · obtain ⟨grown, hgrown, -, hcontent⟩ := (hrely' hvalid).2 name file hfile
    exact ⟨grown, hgrown, hcontent hname⟩

end

/-- Key pairs that are one byte, after a byte that marks a seed. -/
def sampleNkeys : Nkeys UInt8 where
  seed key := .ok [83, key]
  fromSeed bytes :=
    match bytes with
    | mark :: key :: rest =>
      if mark = 83 ∧ (rest = [] ∨ rest = [10]) then .ok key else .error "nkeys: invalid seed"
    | _ => .error "nkeys: invalid encoding"
  publicKey key := .ok (toString key.toNat)
  whole := by
    intro key bytes hseed
    cases hseed
    exact ⟨rfl, rfl⟩
  cut := by
    intro key other bytes part hseed hpart hparse
    cases hseed
    cases part with
    | nil => cases hparse
    | cons mark part =>
      cases part with
      | nil => cases hparse
      | cons found part =>
        have hlength := hpart.length_le
        simp only [List.length_cons, List.length_nil] at hlength
        have hnil : part = [] := List.length_eq_zero_iff.mp (by omega)
        subst hnil
        exact hpart.eq_of_length rfl

/-- A short encoding of the public keys. -/
def sampleEncode (keys : PublicKeys) : Except String (List UInt8) :=
  .ok (keys.issuer ++ keys.xkey).toUTF8.toList

/-- A first run that creates both keys, and a second one that starts when the
first has written its account seed. -/
def sampleEvents : List (ℕ × Event UInt8) :=
  List.replicate 7 (0, .answered, 5) ++ List.replicate 2 (1, .answered, 6) ++
    List.replicate 12 (0, .answered, 7) ++ List.replicate 5 (1, .answered, 8)

/-- What a run has printed. -/
def printed : Task Key (Except AnyError PublicKeys) → Option PublicKeys
  | done (.ok keys) => some keys
  | _ => none

/-- A run that has printed something has ended. -/
theorem eq_done_of_printed {task : Task Key (Except AnyError PublicKeys)} {keys : PublicKeys}
    (h : printed task = some keys) : task = done (.ok keys) := by
  cases task with
  | call request next => cases h
  | done result =>
    cases result with
    | error error => cases h
    | ok found =>
      cases h
      rfl

/-- Both runs of the sample print the same public keys. -/
theorem key_material_agrees_sample :
    ∃ last, run (interleave serve) (runs sampleNkeys sampleEncode) sampleEvents = some last ∧
      last.2 0 = done (.ok ⟨"5", "7"⟩) ∧ last.2 1 = done (.ok ⟨"5", "7"⟩) ∧
      Agreed sampleNkeys sampleEncode last := by
  have hprinted : (run (interleave serve) (runs sampleNkeys sampleEncode) sampleEvents).map
      (fun system => (printed (system.2 0), printed (system.2 1))) =
        some (some ⟨"5", "7"⟩, some ⟨"5", "7"⟩) := by decide +kernel
  obtain ⟨last, hlast, hboth⟩ := Option.map_eq_some_iff.mp hprinted
  have hends : run (interleave serve) last [] = some last := rfl
  exact ⟨last, hlast, eq_done_of_printed (congrArg Prod.fst hboth),
    eq_done_of_printed (congrArg Prod.snd hboth),
    (key_material_agrees sampleNkeys sampleEncode hlast hends).1⟩

end LfpPipe.KeyMaterial
