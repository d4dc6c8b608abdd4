import Mathlib.Logic.Basic

namespace catbox.sensor

/-- The photo-sensor word, `values[7] & 0xFFFF` with the two spin bits inverted. -/
abbrev PtWord := BitVec 16

def PT_BIT_SCP_SPIN_ST : PtWord := 0x0001
def PT_BIT_SCP_OUT : PtWord := 0x0002
def PT_BIT_WASTE_CLOSE : PtWord := 0x0004
def PT_BIT_MCOVER_OPEN : PtWord := 0x0008
def PT_BIT_SCP_SPIN_ED : PtWord := 0x0010
def PT_BIT_SCP_IN : PtWord := 0x0020
def PT_BIT_WASTE_OPEN : PtWord := 0x0040
def PT_BIT_MCOVER_CLOSE : PtWord := 0x0100

/-- The test `(word & bit) != 0` of the source. -/
def PtWord.has (word bit : PtWord) : Bool := word &&& bit != 0

end catbox.sensor
