import Ticker.Language

namespace Ticker

inductive Market where
  | aShare
  | unitedStates
  | hongKong
  | malaysia
  deriving DecidableEq

namespace Market

def all : List Market := [.aShare, .unitedStates, .hongKong, .malaysia]

theorem mem_all (m : Market) : m ∈ all := by cases m <;> decide

def code : Market → String
  | .aShare => "CN"
  | .unitedStates => "US"
  | .hongKong => "HK"
  | .malaysia => "MY"

def ofCode? (s : String) : Option Market := all.find? (·.code == s)

@[simp] theorem ofCode?_code (m : Market) : ofCode? m.code = some m := by
  cases m <;> decide

def label : Market → Language → String
  | .aShare, .chinese => "A股"
  | .aShare, .english => "A-Share"
  | .unitedStates, .chinese => "美股"
  | .unitedStates, .english => "US Stock"
  | .hongKong, .chinese => "港股"
  | .hongKong, .english => "Hong Kong Stock"
  | .malaysia, .chinese => "马股"
  | .malaysia, .english => "Malaysia Stock"

end Market

structure Profile where
  nameChinese : String
  nameEnglish : String
  currency : String
  timezone : String
  exchanges : List String

def Market.profile : Market → Profile
  | .aShare =>
    { nameChinese := "A股", nameEnglish := "China A-Share", currency := "CNY"
      timezone := "Asia/Shanghai", exchanges := ["SSE", "SZSE", "BSE"] }
  | .unitedStates =>
    { nameChinese := "美股", nameEnglish := "US Stock", currency := "USD"
      timezone := "America/New_York", exchanges := ["NYSE", "NASDAQ"] }
  | .hongKong =>
    { nameChinese := "港股", nameEnglish := "Hong Kong Stock", currency := "HKD"
      timezone := "Asia/Hong_Kong", exchanges := ["HKEX"] }
  | .malaysia =>
    { nameChinese := "马股", nameEnglish := "Malaysia Stock", currency := "MYR"
      timezone := "Asia/Kuala_Lumpur", exchanges := ["KLS"] }

end Ticker
