import Ticker.Json
import Ticker.Verdict

namespace Ticker

def Verdict.fields (l : Language) (v : Verdict) : List (String × Json) :=
  [("valid", .bool v.isAccepted)] ++
    Json.field? "market" (v.market?.map (.text ·.code)) ++
    Json.field? "normalizedCode" (v.code?.map .text) ++
    Json.field? "message" ((v.message? l).map .text)

def Market.fields (m : Market) : List (String × Json) :=
  [("market", .text m.code), ("code", .text m.code), ("name", .text m.profile.nameChinese),
    ("name_en", .text m.profile.nameEnglish), ("currency", .text m.profile.currency),
    ("timezone", .text m.profile.timezone), ("exchanges", .texts m.profile.exchanges)]

end Ticker
