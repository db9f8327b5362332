import LonStack.NetMgmt.Query
import LonStack.NetMgmt.Truthful

namespace LonStack

open Lib

/-- The commands that come in pairs, one that updates an entry of a table and one that queries
it. -/
inductive EntryPair
  | nvConfig
  | nmeNvCnfg
  | nmeNvAliasCnfg
  | addr
  deriving DecidableEq, Repr

namespace AppData

def withQueue (gp : AppData) (q : Queue TSASendParam) : AppData := { gp with tsaRespQ := q }

end AppData

namespace EntryPair

open AppData

variable (c : EntryPair) (gp : AppData) (p : APPReceiveParam) (apdu : Apdu)

def update : AppData :=
  match c with
  | .nvConfig => gp.handleNMUpdateNvConfig p apdu
  | .nmeNvCnfg => gp.handleNmeUpdateNvCnfg p apdu
  | .nmeNvAliasCnfg => gp.handleNmeUpdateNvAliasCnfg p apdu
  | .addr => gp.handleNMUpdateAddr p apdu

def query : AppData :=
  match c with
  | .nvConfig => gp.handleNMQueryNvCnfg p apdu
  | .nmeNvCnfg => gp.handleNmeQueryNvCnfg p apdu
  | .nmeNvAliasCnfg => gp.handleNmeQueryNvAliasCnfg p apdu
  | .addr => gp.handleNMQueryAddr p apdu

def index : Nat :=
  match c with
  | .nvConfig => legacyIndex apdu
  | .nmeNvCnfg => expandedIndex apdu
  | .nmeNvAliasCnfg => expandedIndex apdu
  | .addr => (apdu.data 0).toNat

def tableSize : Nat :=
  match c with
  | .nvConfig => gp.nvTableSize + NV_ALIAS_TABLE_SIZE
  | .nmeNvCnfg => gp.nvTableSize
  | .nmeNvAliasCnfg => NV_ALIAS_TABLE_SIZE
  | .addr => min gp.extended NUM_ADDR_TBL_ENTRIES

def entry (i : Nat) : Nat :=
  match c with
  | .nvConfig => if i < gp.nvTableSize then gp.nvConfigTable i else gp.nvAliasTable (i - gp.nvTableSize)
  | .nmeNvCnfg => gp.nvConfigTable i
  | .nmeNvAliasCnfg => gp.nvAliasTable i
  | .addr => gp.addrTable i

def entrySize (i : Nat) : Nat :=
  match c with
  | .nvConfig => if i < gp.nvTableSize then sizeofIzotDatapointConfig else sizeofIzotAliasConfig
  | .nmeNvCnfg => sizeofIzotDatapointConfig
  | .nmeNvAliasCnfg => sizeofIzotAliasConfig
  | .addr => sizeofIzotAddress

def SizeAccepted : Prop :=
  match c with
  | .nvConfig =>
    if legacyIndex apdu < gp.nvTableSize then legacyEntry apdu + 3 ≤ p.pduSize
    else legacyAliasSize p apdu ≤ p.pduSize
  | .nmeNvCnfg => 6 ≤ p.pduSize
  | .nmeNvAliasCnfg => 10 ≤ p.pduSize
  | .addr => (if apdu.data 1 = 0 then 6 else 7) ≤ p.pduSize

def IsQuery : Prop :=
  match c with
  | .nvConfig => p.pduSize = 4 ∨ p.pduSize = 2 ∧ apdu.data 0 ≠ 255
  | .nmeNvCnfg => p.pduSize = 4
  | .nmeNvAliasCnfg => p.pduSize = 4
  | .addr => 2 ≤ p.pduSize

def hostPrimary : List UInt8 :=
  if apdu (legacyEntry apdu + 3) = 0xFF ∧ p.pduSize ≠ legacyEntry apdu + 4 then
    Image.slice apdu (legacyEntry apdu + 4) 2
  else [0xFF, 0xFF]

def answer (query : Apdu) : List UInt8 :=
  match c with
  | .nvConfig =>
    if legacyIndex apdu < gp.nvTableSize then Image.slice apdu (legacyEntry apdu) 3
    else Image.slice apdu (legacyEntry apdu) 4 ++ hostPrimary p apdu
  | .nmeNvCnfg => query.data 0 :: Image.slice apdu 4 4
  | .nmeNvAliasCnfg => query.data 0 :: Image.slice apdu 4 5
  | .addr => Image.slice apdu 2 5

/-- What holds of an update whose index is in the table and whose size is accepted. -/
structure ReadsBack : Prop where
  inside (apdu' : Apdu) : (∀ k < p.pduSize, apdu' k = apdu k) →
    c.update gp p apdu' = c.update gp p apdu
  entryOnly : ∃ m q, c.update gp p apdu = (gp.setMem m).withQueue q ∧
    ∀ k, k < c.entry gp (c.index apdu) ∨
        c.entry gp (c.index apdu) + c.entrySize gp (c.index apdu) ≤ k →
      k ≠ gp.configCheckSum → m k = gp.mem k
  cleared : c = .nvConfig →
    (c.update gp p apdu).mem.getAttribute (c.entry gp (c.index apdu)) IZOT_DATAPOINT_ADDRESS_HIGH = 0 ∧
      (c.update gp p apdu).mem.getAttribute (c.entry gp (c.index apdu)) IZOT_DATAPOINT_AES = 0
  same (q : Queue TSASendParam) (p' : APPReceiveParam) (apdu' : Apdu) :
    q.queueEntries + 1 < q.queueCapacity → c.IsQuery p' apdu' → c.index apdu' = c.index apdu →
      ∃ r, (c.query ((c.update gp p apdu).withQueue q) p' apdu').tsaRespQ.toList = q.toList ++ [r] ∧
        respStatus r = NM_resp_success ∧ r.apdu.tail = c.answer gp p apdu apdu'
  others (q : Queue TSASendParam) (p' : APPReceiveParam) (apdu' : Apdu) :
    c.IsQuery p' apdu' → c.index apdu' < c.tableSize gp → c.index apdu' ≠ c.index apdu →
      (c.query ((c.update gp p apdu).withQueue q) p' apdu').tsaRespQ =
        (c.query (gp.withQueue q) p' apdu').tsaRespQ

structure Refuses : Prop where
  update (q : Queue TSASendParam) (p : APPReceiveParam) :
    ∃ sts, sts ≠ .noError ∧
      (c.update (gp.withQueue q) p apdu).tsaRespQ =
        ((gp.withQueue q).nmndRespond .nm sts p apdu).tsaRespQ ∧
      (c.update (gp.withQueue q) p apdu).configTables = gp.configTables
  query (q : Queue TSASendParam) (p' : APPReceiveParam) (apdu' : Apdu) :
    c.IsQuery p' apdu' → c.index apdu' = c.index apdu →
      (∃ sts, sts ≠ .noError ∧
        c.query (gp.withQueue q) p' apdu' = (gp.withQueue q).nmndRespond .nm sts p' apdu') ∨
      c.query (gp.withQueue q) p' apdu' =
        (gp.withQueue q).writeResponse p'.reqId false false [NM_resp_failure ||| NM_QUERY_NV_CNFG]

def Consistent : Prop :=
  if c.index apdu < c.tableSize gp then c.SizeAccepted gp p apdu → c.ReadsBack gp p apdu
  else c.Refuses gp apdu

def Sound : Prop :=
  match c with
  -- The host primary of an alias is not stored, and the query returns that of an unused entry.
  | .nvConfig =>
    gp.nvTableSize ≤ legacyIndex apdu → c.index apdu < c.tableSize gp → c.SizeAccepted gp p apdu →
      hostPrimary p apdu = [0xFF, 0xFF]
  -- The size of the expanded form is compared with that of the plain one.
  | .nmeNvCnfg => expandedIndex apdu < gp.nvTableSize → 6 ≤ p.pduSize → 8 ≤ p.pduSize
  -- The index of an alias is compared with the size of both tables.
  | .nmeNvAliasCnfg =>
    NV_ALIAS_TABLE_SIZE ≤ expandedIndex apdu →
      gp.nvTableSize + NV_ALIAS_TABLE_SIZE ≤ expandedIndex apdu
  -- The last byte may be missing, and the table may be said to be longer than it is.
  | .addr =>
    (c.index apdu < c.tableSize gp → c.SizeAccepted gp p apdu → 7 ≤ p.pduSize) ∧
      (NUM_ADDR_TBL_ENTRIES ≤ c.index apdu → gp.extended ≤ c.index apdu)

end EntryPair

end LonStack
