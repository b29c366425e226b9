import Elevation.Archive.Bytes
import Elevation.Archive.Fault

/-!
The directory of an archive.

The directory is found from the end: an end record, up to 64 KiB before the end of the data, says
how large the directory is and where it starts. Data before the archive is tolerated; it shifts
every offset by the same distance.
-/
namespace Elevation.Archive

/-! ### Names -/

def highCharacters : Array Nat := #[
  0xc7, 0xfc, 0xe9, 0xe2, 0xe4, 0xe0, 0xe5, 0xe7, 0xea, 0xeb, 0xe8, 0xef,
  0xee, 0xec, 0xc4, 0xc5, 0xc9, 0xe6, 0xc6, 0xf4, 0xf6, 0xf2, 0xfb, 0xf9,
  0xff, 0xd6, 0xdc, 0xa2, 0xa3, 0xa5, 0x20a7, 0x192, 0xe1, 0xed, 0xf3, 0xfa,
  0xf1, 0xd1, 0xaa, 0xba, 0xbf, 0x2310, 0xac, 0xbd, 0xbc, 0xa1, 0xab, 0xbb,
  0x2591, 0x2592, 0x2593, 0x2502, 0x2524, 0x2561, 0x2562, 0x2556, 0x2555, 0x2563, 0x2551, 0x2557,
  0x255d, 0x255c, 0x255b, 0x2510, 0x2514, 0x2534, 0x252c, 0x251c, 0x2500, 0x253c, 0x255e, 0x255f,
  0x255a, 0x2554, 0x2569, 0x2566, 0x2560, 0x2550, 0x256c, 0x2567, 0x2568, 0x2564, 0x2565, 0x2559,
  0x2558, 0x2552, 0x2553, 0x256b, 0x256a, 0x2518, 0x250c, 0x2588, 0x2584, 0x258c, 0x2590, 0x2580,
  0x3b1, 0xdf, 0x393, 0x3c0, 0x3a3, 0x3c3, 0xb5, 0x3c4, 0x3a6, 0x398, 0x3a9, 0x3b4,
  0x221e, 0x3c6, 0x3b5, 0x2229, 0x2261, 0xb1, 0x2265, 0x2264, 0x2320, 0x2321, 0xf7, 0x2248,
  0xb0, 0x2219, 0xb7, 0x221a, 0x207f, 0xb2, 0x25a0, 0xa0]

def legacyChar (byte : UInt8) : Char :=
  if byte < 128 then Char.ofNat byte.toNat
  else Char.ofNat (highCharacters.getD (byte.toNat - 128) 0)

def unicodeFlag : Nat := 11

/-- A name as text; the flags say whether it is UTF-8. -/
def nameText (flags : Nat) (raw : List UInt8) : Except Fault String :=
  if flagSet flags unicodeFlag then
    ((Text.ofUtf8 raw).mapError .unreadableName).map String.ofList
  else .ok (String.ofList (raw.map legacyChar))

/-! ### What holds an archive -/

/-- A file refuses a place before its start and one behind `largest`, the size of the largest file that
its file system can hold; memory takes a place before its start, counted from the end, as its start. -/
inductive Medium where
  | file (largest : Nat)
  | memory
  deriving DecidableEq, Repr

def Medium.isFile : Medium → Bool
  | file _ => true
  | memory => false

def farthestPlace : Int := 0x8000000000000000

/-- Why a place counted from the start cannot be gone to. -/
def Medium.refuses (medium : Medium) (place : Int) : Option Fault :=
  let tooFar := place < -farthestPlace || farthestPlace ≤ place
  match medium with
  | .file largest =>
    if tooFar then some .placeTooFar
    else if place < 0 || largest < place then some (.refused ⟨.invalidArgument, none⟩)
    else none
  | .memory =>
    if tooFar then some .offsetTooFar
    else if place < 0 then some (.beforeStart place)
    else none

/-! ### The end record -/

/-- Size and place of the directory as the end record gives them, and where that record stands;
`extension` counts the bytes of the wide records between the two. -/
structure EndRecord where
  size : Nat
  offset : Nat
  place : Nat
  extension : Nat
  deriving Repr

def endMark : List Nat := [0x50, 0x4b, 5, 6]
def wideLocatorMark : List Nat := [0x50, 0x4b, 6, 7]
def wideEndMark : List Nat := [0x50, 0x4b, 6, 6]
def entryMark : List Nat := [0x50, 0x4b, 1, 2]
def headerMark : List Nat := [0x50, 0x4b, 3, 4]

def endRecordBytes : Nat := 22
def wideLocatorBytes : Nat := 20
def wideEndBytes : Nat := 56
def entryBytes : Nat := 46
def headerBytes : Nat := 30

def lastEndMark? (bytes : ByteArray) (top : Nat) : (count : Nat) → Option Nat
  | 0 => none
  | count + 1 =>
    if hasMark bytes (top - 1) endMark then some (top - 1) else lastEndMark? bytes (top - 1) count

/-- The wide record before an end record takes its place where it is present and whole. A file
that is too short for a locator has none, and one that is too short for the record behind a
locator is refused. -/
def widened (medium : Medium) (bytes : ByteArray) (record : EndRecord) :
    Except Fault EndRecord :=
  let locator := record.place - wideLocatorBytes
  if medium.isFile && record.place < wideLocatorBytes then .ok record
  else if !hasMark bytes locator wideLocatorMark then .ok record
  else if word32 bytes (locator + 4) ≠ 0 || 1 < word32 bytes (locator + 16) then
    .error .severalDisks
  else if medium.isFile && locator < wideEndBytes then
    .error (.refused ⟨.invalidArgument, none⟩)
  else
    let wide := locator - wideEndBytes
    if bytes.size < wide + wideEndBytes || !hasMark bytes wide wideEndMark then .ok record
    else .ok ⟨word64 bytes (wide + 40), word64 bytes (wide + 48), record.place,
      wideEndBytes + wideLocatorBytes⟩

def endRecordAt (medium : Medium) (bytes : ByteArray) (place : Nat) : Except Fault EndRecord :=
  widened medium bytes ⟨word32 bytes (place + 12), word32 bytes (place + 16), place, 0⟩

/-- The end record: at the very end without a comment, or else the last one that is marked. -/
def endRecord? (medium : Medium) (bytes : ByteArray) : Except Fault (Option EndRecord) :=
  let size := bytes.size
  if size < endRecordBytes then .ok none
  else if hasMark bytes (size - endRecordBytes) endMark && word16 bytes (size - 2) = 0 then
    (endRecordAt medium bytes (size - endRecordBytes)).map some
  else
    let lowest := size - (65536 + endRecordBytes)
    match lastEndMark? bytes size (size - lowest) with
    | none => .ok none
    | some place =>
      if size < place + endRecordBytes then .ok none
      else (endRecordAt medium bytes place).map some

def isArchive (medium : Medium) (bytes : ByteArray) : Except Fault Bool :=
  match endRecord? medium bytes with
  | .ok record => .ok record.isSome
  | .error (.refused _) => .ok false
  | .error fault => .error fault

/-! ### Entries -/

structure Entry where
  /-- The name as it is looked up, which ends before a zero character. -/
  name : String
  rawName : String
  flags : Nat
  method : Nat
  check : Nat
  packedSize : Nat
  size : Nat
  attributes : Nat
  offset : Int
  deriving Repr, DecidableEq

structure Directory where
  entries : List Entry
  start : Nat
  deriving Repr

/-- Wide sizes from the extra field of an entry: each value is present only where the plain one is
filled with ones. The size may have been widened before, to the wide number of ones only. -/
def Entry.widenFrom (extra : ByteArray) (entry : Entry) : Except Fault Entry :=
  let full := 0xffffffff
  let sized : Except Fault (Entry × Nat) :=
    if entry.size = full || entry.size = 0xffffffffffffffff then
      if extra.size < 8 then .error (.missingWideField "File size")
      else .ok ({ entry with size := word64 extra 0 }, 8)
    else .ok (entry, 0)
  match sized with
  | .error fault => .error fault
  | .ok (entry, place) =>
    let packed : Except Fault (Entry × Nat) :=
      if entry.packedSize = full then
        if extra.size < place + 8 then .error (.missingWideField "Compress size")
        else .ok ({ entry with packedSize := word64 extra place }, place + 8)
      else .ok (entry, place)
    match packed with
    | .error fault => .error fault
    | .ok (entry, place) =>
      if entry.offset = full then
        if extra.size < place + 8 then .error (.missingWideField "Header offset")
        else .ok { entry with offset := word64 extra place }
      else .ok entry

def Entry.readExtra (extra : ByteArray) : (steps place : Nat) → Entry → Except Fault Entry
  | 0, _, entry => .ok entry
  | steps + 1, place, entry =>
    if extra.size < place + 4 then .ok entry
    else
      let tag := word16 extra place
      let size := word16 extra (place + 2)
      if extra.size < place + 4 + size then .error (.corruptExtra tag size)
      else if tag = 1 then
        match entry.widenFrom (slice extra (place + 4) (place + 4 + size)) with
        | .error fault => .error fault
        | .ok entry => readExtra extra steps (place + 4 + size) entry
      else readExtra extra steps (place + 4 + size) entry

def newestVersion : Nat := 63

/-- Reads the entry at `place` of the directory's bytes; the second result is the place behind it
and the third its full length. -/
def readEntry (data : ByteArray) (place : Nat) : Except Fault (Entry × Nat × Nat) :=
  if data.size < place + entryBytes then .error .truncatedDirectory
  else if !hasMark data place entryMark then .error .badDirectoryMark
  else
    let flags := word16 data (place + 8)
    let nameSize := word16 data (place + 28)
    let extraSize := word16 data (place + 30)
    let commentSize := word16 data (place + 32)
    let nameEnd := min data.size (place + entryBytes + nameSize)
    let extraEnd := min data.size (nameEnd + extraSize)
    let total := entryBytes + nameSize + extraSize + commentSize
    match nameText flags (slice data (place + entryBytes) nameEnd).data.toList with
    | .error fault => .error fault
    | .ok rawName =>
      let version := word16 data (place + 6) % 256
      if newestVersion < version then .error (.version version)
      else
        let entry : Entry :=
          { name := String.ofList (rawName.toList.takeWhile (·.toNat ≠ 0))
            rawName := rawName
            flags := flags
            method := word16 data (place + 10)
            check := word32 data (place + 16)
            packedSize := word32 data (place + 20)
            size := word32 data (place + 24)
            attributes := word32 data (place + 38)
            offset := word32 data (place + 42) }
        let extra := slice data nameEnd extraEnd
        (entry.readExtra extra extra.size 0).map fun entry =>
          (entry, min data.size (extraEnd + commentSize), total)

/-- Reads entries until their full lengths add up to the size of the directory. -/
def readEntries (data : ByteArray) (size : Nat) :
    (steps place total : Nat) → Except Fault (List Entry)
  | 0, _, _ => .ok []
  | steps + 1, place, total =>
    if size ≤ total then .ok []
    else
      match readEntry data place with
      | .error fault => .error fault
      | .ok (entry, place, length) =>
        (readEntries data size steps place (total + length)).map (entry :: ·)

def readDirectory (medium : Medium) (bytes : ByteArray) : Except Fault Directory :=
  match endRecord? medium bytes with
  | .error (.refused _) | .ok none => .error .notArchive
  | .error fault => .error fault
  | .ok (some record) =>
    let shift : Int := (record.place : Int) - record.extension - record.size - record.offset
    let start : Int := record.offset + shift
    if start < 0 then .error .badDirectoryOffset
    else
      let data := slice bytes start.toNat (start.toNat + record.size)
      (readEntries data record.size (data.size / entryBytes + 1) 0 0).map fun entries =>
        ⟨entries.map fun entry => { entry with offset := entry.offset + shift }, start.toNat⟩

/-- Where the data of the entry at `place` of the list has to end: at the next header, wherever
that is, or, behind the last one, at the directory. Of entries with one offset the first keeps its
room. -/
def Directory.endOf (directory : Directory) (place : Nat) (entry : Entry) : Int :=
  if (directory.entries.take place).any fun other => other.offset = entry.offset then entry.offset
  else
    let later := directory.entries.filterMap fun other =>
      if entry.offset < other.offset then some other.offset else none
    match later with
    | [] => directory.start
    | next :: rest => rest.foldl min next

/-- The entry of a name: the last one where several have it. -/
def Directory.find? (directory : Directory) (name : String) : Option (Nat × Entry) :=
  (directory.entries.zipIdx.reverse.find? fun (entry, _) => entry.name = name).map
    fun (entry, place) => (place, entry)

end Elevation.Archive
