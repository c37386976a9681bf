import HttpJournal.Time.ZoneRow

namespace HttpJournal.ZoneTable

def oceansA : List ZoneRow := [
  ⟨"Antarctica/Casey", [0, 28800, 39600],
    "B2g77eo0Clag4o0B73bo0Cuz1o0B60l80C2fnh80Bpz9g0Cat4c0B89u80Cacgc0B80no0Casw1oB89wycCag5poB89" ++
      "wycCag5poB84lac", none⟩,
  ⟨"Antarctica/Davis", [0, 25200, 18000], "B29ycyo0A42jdw0B27wgs0Cl8uss0B7eqs0Cunmk0B60qs0", none⟩,
  ⟨"Antarctica/Macquarie", [0, 36000, 39600],
    "B1g3o2o0C8ts4g0B902o0A11wns0Bf4kh40Ca6p8g0B9d1c0Casw00B6uao0Cbvs00B6uao0Cbvs00B779c0Cbvs00B" ++
      "64dc0Cclpc0B6hc00Cc8qo0B6hc00Cc8qo0B6hc00Cc8qo0B6uao0Cc8qo0B6hc00Cc8qo0B6hc00Cc8qo0B6hc00" ++
      "Cc8qo0B6hc00Cc8qo0B6hc00Cc8qo0B7x6o0Cb5uo0B7k800Cb5uo0B6hc00Cc8qo0B6hc00Cc8qo0B6hc00Cbvs0" ++
      "0B7k800Cbitc0B7k800Cbitc0B779c0Cbitc0B779c0Cbitc0B7x6o0C9q000B902o0C9q000B902o0C9q000B902" ++
      "o0C9q000B902o0C9q000B9d1c0C9q000B902o0C9q000B902o0C9q000B902o0C9q000B902o0C7x6o0Basw00Ca2" ++
      "yo0B902o0C9q000B902o0C9q000B902o0C9q000B902o0C9q000B9d1c0C9d1c0B902o0Ca2yo0B9d1c0C9d1c0B9" ++
      "d1c0C9d1c0",
    some (australian 2011 36000)⟩,
  ⟨"Antarctica/Mawson", [0, 21600, 18000], "B28fkqo0Ct22y80", none⟩,
  ⟨"Antarctica/Palmer", [0, -10800, -14400, -7200],
    "B2e41uo0C31ho0Bbqas0C71mk0Bbqas0C8ovw0B9d440C9px80B9d440C9cyk0B9d440D28t6k0B51ek0C46b6s0B8c" ++
      "2s0C7x3w0Basys0C7x3w0Bb5xg0C7k580Bb5xg0C7k580Bb5xg0C9cyk0B9d440C7x3w0Basys0C7x3w0Bb5xg0C7" ++
      "k580B9q2s0C8zzw0Bb5xg0C7x3w0Basys0C7x3w0Basys0C7x3w0Basys0C7x3w0Bb5xg0C7k580Bb5xg0C8n180B" ++
      "a31g0C7x3w0Ba31g0C9px80B9q2s0C7x3w0Bb5xg0C7k580Bb5xg0C7k580Bb5xg0C7k580Bb5xg0C7x3w0Basys0" ++
      "C7x3w0Basys0C7x3w0Bb5xg0C7k580Bb5xg0C8n180Ba31g0C7x3w0Basys0C8zzw0B9q2s0Cast80B5eis0Ccyl8" ++
      "0B6hes0Cc8nw0B6udg0Cbvp80B6udg0Cvonw0B4olg0", none⟩,
  ⟨"Antarctica/Rothera", [0, -10800], "B2kbx400", none⟩,
  ⟨"Antarctica/Troll", [0], "", some ⟨2005, ⟨3, 0, 25, 3600, 7200⟩, ⟨10, 0, 25, 3600, 0⟩⟩⟩,
  ⟨"Antarctica/Vostok", [0, 25200, 18000], "B2afp1c0Aiushw0Be23g0Cf79gs0", none⟩,
  ⟨"Atlantic/Azores", [-6160, -6872, -7200, -3600, 0, 3600],
    "B17u6y34Cem124wD2bufw0C6zxg0D66800Cbq580D71s40Cbq580D71s40Cbq580D73ms0Cbq580D71s40Cbq580D1b" ++
      "2g00C8so00Dst1c0C8n400D9q000C902o0Da2yo0C902o0Da2yo0C8n400Dst1c0C8n400D9d1c0C9d1c0Dsg2o0C" ++
      "9d1c0D902o0C9q000Da2yo0C8n400D9d1c0C9d1c0D902o0C9q000Da2yo0Cb5uo0D51hc0Cbmio0D99c00C9ew00" ++
      "D88ao0E25p80D5reo0C3lpg0D779c0E1sqk0D6uao0C38qs0D6uao0E25p80D6hc00C38qs0D6uao0E25p80D6hc0" ++
      "0C38qs0D8a5c0C9d1c0D9d9o0C9d1c0D9d1c0C9d1c0D9d1c0C9d1c0D9d1c0C9d1c0D9d1c0C9q000D9d1c0C9d1" ++
      "c0D9d1c0C9d1c0D9d1c0C9d1c0D9d1c0C9d1c0D9d1c0C9q000D9d1c0C9d1c0D9d1c0C9d1c0D9d1c0C9d1c0D9d" ++
      "1c0C9d1c0D9d1c0C9d1c0D9d1c0C9q000D9d1c0C9d1c0D9d1c0C9d1c0D9d1c0C9d1c0D9d1c0E8cavo0D9d1c0E" ++
      "9d1c0D9d1c0E9d1c0D9q000E9d1c0D9d1c0E9d1c0D9d1c0E9d1c0D9d1c0E9d1c0D9d1c0E9d1c0D9d1c0E9d1c0" ++
      "D9q000E9d1c0D9d1c0E9d1c0D9d1c0E4olg0F4ofw0E46000D571c0E9d1c0D9d1c0E9d1c0D9d1c0",
    some (european 1996 (-3600))⟩,
  ⟨"Atlantic/Bermuda", [-15558, -11958, -14400, -10800],
    "B1p73g06A95jw0Ba16s0A7yyk0C5w74c0D69z5ruCeefw0D7x9g0Cbiqk0D6udg0Cc8nw0D6hes0Cc8nw0Dst440C64" ++
      "ak0Dcyqs0C5ed80Ddbpg0C5ed80Ddoo40C51ek0Ddoo40C51ek0Ddoo40C5ed80D1xuw40C7x3w0D94r9g0C9cyk0" ++
      "D9d440C9cyk0D9d440C9px80D905g0C9px80D9d440C9cyk0D9d440C9cyk0D9d440C9cyk0D9d440C9cyk0D9d44" ++
      "0C9px80D905g0C9px80D9d440C9cyk0D9d440C9cyk0D9d440C9cyk0D8a840Cafuk0D8a840Cast80D7x9g0Cast" ++
      "80D7x9g0Cast80D8a840Cafuk0D8a840Cafuk0D8a840Cast80D7x9g0Cast80D7x9g0Cast80D8a840Cafuk0D8a" ++
      "840Cafuk0D8a840Cafuk0D8a840Cast80D7x9g0Cast80D7x9g0Cast80D8a840Cafuk0D8a840Cafuk0D8a840Ca" ++
      "st80D7x9g0Cast80D7x9g0Cast80", some (northAmerican 2007 (-14400))⟩,
  ⟨"Atlantic/Canary", [-3696, -3600, 0, 3600],
    "B1rr606oCctvupcDhhq7s0C905g0D9d1c0C9d1c0D9d1c0C9d1c0D9d1c0C9d1c0D9d1c0C9q000D9d1c0C9d1c0D9d" ++
      "1c0C9d1c0D9d1c0C9d1c0D9d1c0C9d1c0D9d1c0C9d1c0D9d1c0C9q000D9d1c0C9d1c0D9d1c0C9d1c0D9d1c0C9" ++
      "d1c0D9d1c0C9d1c0D9d1c0C9d1c0", some (european 1996 0)⟩,
  ⟨"Atlantic/Cape_Verde", [-5644, -7200, -3600], "B1mg8080Cg06lc0B1mn180Cfpqwc0", none⟩,
  ⟨"Atlantic/Faroe", [-1624, 0, 3600],
    "B1kdkul4C127keuwB9d1c0C9d1c0B9d1c0C9d1c0B9d1c0C9d1c0B9q000C9d1c0B9d1c0C9d1c0B9d1c0C9d1c0B9d" ++
      "1c0C9d1c0B9d1c0C9d1c0B9d1c0C9d1c0B9q000C9d1c0B9d1c0C9d1c0B9d1c0C9d1c0B9d1c0C9d1c0B9d1c0C9" ++
      "d1c0B9d1c0", some (european 1996 0)⟩,
  ⟨"Atlantic/Madeira", [-4056, -3600, 0, 3600],
    "B1mg7xg0C2bufw0B6zxg0C66800Bbq580C71s40Bbq580C71s40Bbq580C73ms0Bbq580C71s40Bbq580C1b2g00B8s" ++
      "o00Cst1c0B8n400C9q000B902o0Ca2yo0B902o0Ca2yo0B8n400Cst1c0B8n400C9d1c0B9d1c0Csg2o0B9d1c0C9" ++
      "02o0B9q000Ca2yo0B8n400C9d1c0B9d1c0C902o0B9q000Ca2yo0Bb5uo0C51hc0Bbmio0C99c00B9ew00C88ao0D" ++
      "25p80C5reo0B3lpg0C779c0D1sqk0C6uao0B38qs0C6uao0D25p80C6hc00B38qs0C6uao0D25p80C6hc00B38qs0" ++
      "C8a5c0B9d1c0C9d9o0B9d1c0C9d1c0B9d1c0C9d1c0B9d1c0C9d1c0B9d1c0C9d1c0B9q000C9d1c0B9d1c0C9d1c" ++
      "0B9d1c0C9d1c0B9d1c0C9d1c0B9d1c0C9d1c0B9q000C9d1c0B9d1c0C9d1c0B9d1c0C9d1c0B9d1c0C9d1c0B9d1" ++
      "c0C9d1c0B9d1c0C9d1c0B9q000C9d1c0B9d1c0C9d1c0B9d1c0C9d1c0B9d1c0C9d1c0D8cnuc0C902o0D9d1c0C9" ++
      "d1c0D9d1c0C9q000D9d1c0C9d1c0D9d1c0C9d440D9d1c0C9d1c0D9d1c0C9d1c0D9d1c0C9d1c0D9d1c0C9q000D" ++
      "9d1c0C9d1c0D9d1c0C9d1c0D9d1c0C9d1c0D9d1c0C9d1c0D9d1c0C9d1c0", some (european 1996 0)⟩,
  ⟨"Atlantic/South_Georgia", [-8768, -7200], "B1ayy9fk", none⟩,
  ⟨"Atlantic/Stanley", [-13884, -14400, -10800, -7200],
    "B1mjvmpoCdbvxqcB8zzw0C9q2s0B8zzw0Ca31g0B8zzw0C9q2s0B8zzw0C9q2s0B8zzw0C9q2s0B4xp80Cl1pus0D7k" ++
      "580Cb5rw0D77c40Cbiqk0Bid6s0C7kas0Bb5rw0C7kas0Bb5rw0C7kas0Bb5rw0C7kas0Bbiqk0C77c40Bbiqk0C7" ++
      "kas0Bb5rw0C7kas0Bb5rw0C7kas0Bb5rw0C7kas0Bb5rw0C7kas0Bbiqk0C7kas0Bb5rw0C7kas0Bb5rw0C7kas0B" ++
      "b5rw0C7kas0Bb5rw0C7kas0Bb5xg0C77c40Bbvp80C6udg0Bbvp80C77c40Bbiqk0C77c40Bbiqk0C77c40Bbiqk0" ++
      "C77c40Bbiqk0C77c40Bbvp80C77c40Bbiqk0C77c40Bbiqk0C77c40", none⟩,
  ⟨"Australia/Adelaide", [33260, 32400, 34200, 37800],
    "B1dmg904C27qdzwD97zyu0C49pc0Dcxfk00C4h400D9d1c0C9d1c0D9q000C902o0Deeio00C64dc0Dclpc0C6hc00D" ++
      "c8qo0C6hc00Dc8qo0C6hc00Dc8qo0C6uao0Dc8qo0C6hc00Dc8qo0C6hc00Dc8qo0C6hc00Dc8qo0C6hc00Dc8qo0" ++
      "C6hc00Dc8qo0C6uao0Dc8qo0C6hc00Dc8qo0C6hc00Dc8qo0C6hc00Dc8qo0C779c0Db5uo0C7k800Dbitc0C7k80" ++
      "0Dbitc0C779c0Dbitc0C779c0Dbitc0C6hc00Dc8qo0C7k800Db5uo0C6uao0Dc8qo0C779c0Dbitc0C7k800Db5u" ++
      "o0C7x6o0Dasw00C7x6o0Dasw00C7x6o0Dasw00C7x6o0Db5uo0C7k800Db5uo0C7k800Db5uo0C7x6o0Dasw00C7x" ++
      "6o0Dasw00C7x6o0Db5uo0C7k800Db5uo0C7x6o0Dasw00C7k800Db5uo0", some (australian 2008 34200)⟩,
  ⟨"Australia/Brisbane", [36728, 36000, 39600],
    "B1dkurnsCbhbss8B49pc0Ccxfk00B4h400C9d1c0B9d1c0C9q000B902o0Ceeio00B64dc0C97zuo0B6hc00Cc8qo0B" ++
      "6hc00Cc8qo0B6hc00", none⟩,
  ⟨"Australia/Broken_Hill", [33948, 36000, 32400, 34200, 37800],
    "B1dmg8h0Ct9nr0D1egqs0E97zyu0D49pc0Ecxfk00D4h400E9d1c0D9d1c0E9q000D902o0Eeeio00D64dc0Eclpc0D" ++
      "6hc00Ec8qo0D6hc00Ec8qo0D6hc00Ec8qo0D6uao0Ec8qo0D6hc00Ec8qo0D6hc00Ec8qo0D6hc00Ec8qo0D6hc00" ++
      "Ec8qo0D6hc00Ec8qo0D8a5c0Easw00D6hc00Ec8qo0D6hc00Ec8qo0D6hc00Ec8qo0D779c0Eb5uo0D7k800Ebitc" ++
      "0D7k800Ebitc0D779c0Ebitc0D6hc00Ec8qo0D6hc00Ec8qo0D6hc00Ec8qo0D6uao0Ec8qo0D6hc00Ec8qo0D6hc" ++
      "00Ec8qo0D7x6o0Easw00D7x6o0Easw00D7x6o0Easw00D7x6o0Eb5uo0D7k800Eb5uo0D7k800Eb5uo0D7x6o0Eas" ++
      "w00D7x6o0Easw00D7x6o0Eb5uo0D7k800Eb5uo0D7x6o0Easw00D7k800Eb5uo0",
    some (australian 2008 34200)⟩,
  ⟨"Australia/Darwin", [31400, 32400, 34200, 37800],
    "B1dmgafsC27qck8D97zyu0C49pc0Dcxfk00C4h400D9d1c0C9d1c0D9q000C902o0", none⟩,
  ⟨"Australia/Eucla", [30928, 31500, 35100],
    "B1e21eswCb05944B49pc0Ccxfk00B4h400C9d1c0B9d1c0Cgheyo0B6hc00C4ir9c0B6hc00C40r400B5eg00C7p9hc" ++
      "0B5reo0Cb5uo0B7x6o0Casw00B7x6o0", none⟩,
  ⟨"Australia/Hobart", [35356, 36000, 39600],
    "B1dxcspwCb03ee4B902o0Cb5uo0B6hc00Cc8qo0B6hc00Cbx2ao0B4h400C9d1c0B9d1c0C9q000B902o0Cc9tk00B9" ++
      "d1c0Casw00B6uao0Cbvs00B6uao0Cbvs00B779c0Cbvs00B64dc0Cclpc0B6hc00Cc8qo0B6hc00Cc8qo0B6hc00C" ++
      "c8qo0B6uao0Cc8qo0B6hc00Cc8qo0B6hc00Cc8qo0B6hc00Cc8qo0B6hc00Cc8qo0B6hc00Cc8qo0B7x6o0Cb5uo0" ++
      "B7k800Cb5uo0B6hc00Cc8qo0B6hc00Cc8qo0B6hc00Cbvs00B7k800Cbitc0B7k800Cbitc0B779c0Cbitc0B779c" ++
      "0Cbitc0B7x6o0C9q000B902o0C9q000B902o0C9q000B902o0C9q000B902o0C9q000B9d1c0C9q000B902o0C9q0" ++
      "00B902o0C9q000B902o0C9q000B902o0C7x6o0Basw00Ca2yo0B902o0C9q000B902o0C9q000B902o0C9q000B90" ++
      "2o0C9q000B9d1c0C9d1c0B902o0Ca2yo0", some (australian 2008 36000)⟩,
  ⟨"Australia/Lindeman", [35756, 36000, 39600],
    "B1dkusesCbhbs18B49pc0Ccxfk00B4h400C9d1c0B9d1c0C9q000B902o0Ceeio00B64dc0C97zuo0B6hc00Cc8qo0B" ++
      "6hc00Cc8qo0B6hc00Cc8qo0B6uao0Cc8qo0B6hc00", none⟩,
  ⟨"Australia/Lord_Howe", [38180, 36000, 37800, 41400, 39600],
    "B1dmg57gC18x8f0kDc8uu0C6u7w0Dc8tg0C6h980Dc8tg0C6h980Dc8tg0C6h980Ec8tg0C777y0Eb5w20C7k6m0Ebi" ++
      "uq0C7k6m0Ebiuq0C777y0Ebiuq0C6ham0Ec8s20C6ham0Ec8s20C6ham0Ec8s20C6u9a0Ec8s20C6ham0Ec8s20C6" ++
      "ham0Ec8s20C7x5a0Easxe0C7x5a0Easxe0C7x5a0Easxe0C7x5a0Eb5w20C7k6m0E7x820Casum0Eb5w20C7x5a0E" ++
      "asxe0C7x5a0Easxe0C7x5a0Eb5w20C7k6m0Eb5w20C7x5a0Easxe0C7k6m0Eb5w20",
    some ⟨2008, ⟨4, 0, 1, -32400, 37800⟩, ⟨10, 0, 1, -30600, 39600⟩⟩⟩,
  ⟨"Australia/Melbourne", [34792, 36000, 39600],
    "B1dmg7tkCbfqcmgB49pc0Ccxfk00B4h400C9d1c0B9d1c0C9q000B902o0Ceeio00B64dc0Cclpc0B6hc00Cc8qo0B6" ++
      "hc00Cc8qo0B6hc00Cc8qo0B6uao0Cc8qo0B6hc00Cc8qo0B6hc00Cc8qo0B6hc00Cc8qo0B6hc00Cc8qo0B6hc00C" ++
      "c8qo0B6uao0Cc8qo0B6hc00Cc8qo0B6hc00Cc8qo0B6hc00Cc8qo0B779c0Cb5uo0B7k800Cb5uo0B7x6o0Cbitc0" ++
      "B779c0Cbitc0B779c0Cbitc0B6hc00Cc8qo0B6hc00Cc8qo0B6uao0Cc8qo0B6hc00Cc8qo0B7k800Cb5uo0B7x6o" ++
      "0Casw00B7x6o0Casw00B7x6o0Casw00B7x6o0Cb5uo0B7k800C7x6o0Basw00Cb5uo0B7x6o0Casw00B7x6o0Casw" ++
      "00B7x6o0Cb5uo0B7k800Cb5uo0B7x6o0Casw00B7k800Cb5uo0", some (australian 2008 36000)⟩,
  ⟨"Australia/Perth", [27804, 28800, 32400],
    "B1e21h7oCb058scB49pc0Ccxfk00B4h400C9d1c0B9d1c0Cgheyo0B6hc00C4ir9c0B6hc00C40r400B5eg00C7p9hc" ++
      "0B5reo0Cb5uo0B7x6o0Casw00B7x6o0", none⟩,
  ⟨"Australia/Sydney", [36292, 36000, 39600],
    "B1dmg6nwCbfqds4B49pc0Ccxfk00B4h400C9d1c0B9d1c0C9q000B902o0Ceeio00B64dc0Cclpc0B6hc00Cc8qo0B6" ++
      "hc00Cc8qo0B6hc00Cc8qo0B6uao0Cc8qo0B6hc00Cc8qo0B6hc00Cc8qo0B6hc00Cc8qo0B6hc00Cc8qo0B6hc00C" ++
      "c8qo0B8a5c0Casw00B6hc00Cc8qo0B6hc00Cc8qo0B6hc00Cc8qo0B779c0Cb5uo0B7k800Cbitc0B7k800Cbitc0" ++
      "B779c0Cbitc0B6hc00Cc8qo0B6hc00Cc8qo0B6hc00Cc8qo0B6uao0Cc8qo0B6hc00Cc8qo0B6hc00Cc8qo0B7x6o" ++
      "0Casw00B7x6o0Casw00B7x6o0Casw00B7x6o0Cb5uo0B7k800C7x6o0Basw00Cb5uo0B7x6o0Casw00B7x6o0Casw" ++
      "00B7x6o0Cb5uo0B7k800Cb5uo0B7x6o0Casw00B7k800Cb5uo0", some (australian 2008 36000)⟩,
  ⟨"Indian/Chagos", [17380, 18000, 21600], "B1ju9zx8C1ag64us", none⟩,
  ⟨"Indian/Maldives", [17640, 18000], "B2bi2520", none⟩,
  ⟨"Indian/Mauritius", [13800, 14400, 18000], "B1jua2ooC13jnu7cB8bx80Cdd0wc0B7x3w0", none⟩,
  ⟨"Pacific/Apia", [45184, -41216, -41400, -39600, -36000, 50400, 46800],
    "B1ca1egwC9nfeo0Dkcrmt4Evp3la0D9odo0E902o0F4zbk0G4qog0F9d1c0G9q000F902o0G9q000F902o0G9q000F9" ++
      "02o0G9q000F902o0G9q000F902o0G9q000F9d1c0G9q000F902o0G9q000F902o0G9q000", none⟩,
  ⟨"Pacific/Auckland", [41944, 41400, 45000, 43200, 46800],
    "BzxacywCusn9z4B64ak0Dbiw40B7x5a0Dasxe0B7x5a0Dasxe0B7x5a0Dasxe0B8a3y0Dafyq0B8a3y0Dafyq0Bafvy" ++
      "0D7x820Basum0D7x820Basum0D7x820Basum0D7x820Basum0D7x820Bb5ta0D7k9e0Bb5ta0D7x820Ehsl2m0D5r" ++
      "eo0Eclpc0D6uao0Ec8qo0D6hc00Ec8qo0D6hc00Ec8qo0D6hc00Ec8qo0D6hc00Ec8qo0D6hc00Ec8qo0D6uao0Ec" ++
      "8qo0D6hc00Ec8qo0D6hc00Ec8qo0D6hc00Ec8qo0D6hc00Ec8qo0D6hc00Ec8qo0D6uao0Ec8qo0D6hc00Eb5uo0D" ++
      "8a5c0Eafxc0D8a5c0Eafxc0D8a5c0Eafxc0D8n400Ea2yo0D8n400Ea2yo0D8n400Ea2yo0D8n400Eafxc0D8a5c0" ++
      "Eafxc0D8a5c0Eafxc0D8n400Ea2yo0D8n400Ea2yo0D8n400Eafxc0D8a5c0Eafxc0D8a5c0Eafxc0D8n400Ea2yo" ++
      "0D8n400Ea2yo0D8n400Ea2yo0D8n400Ea2yo0",
    some ⟨2008, ⟨4, 0, 1, -36000, 43200⟩, ⟨9, 6, 23, 50400, 46800⟩⟩⟩,
  ⟨"Pacific/Bougainville", [37336, 35312, 36000, 32400, 39600],
    "B15r0giwC7tuc88Dosc24wC1n05g0E1071c40", none⟩,
  ⟨"Pacific/Chatham", [44028, 44100, 45900, 49500],
    "Bzxabd0C149qqm0Df1tq90C5reo0Dclpc0C6uao0Dc8qo0C6hc00Dc8qo0C6hc00Dc8qo0C6hc00Dc8qo0C6hc00Dc8" ++
      "qo0C6hc00Dc8qo0C6uao0Dc8qo0C6hc00Dc8qo0C6hc00Dc8qo0C6hc00Dc8qo0C6hc00Dc8qo0C6hc00Dc8qo0C6" ++
      "uao0Dc8qo0C6hc00Db5uo0C8a5c0Dafxc0C8a5c0Dafxc0C8a5c0Dafxc0C8n400Da2yo0C8n400Da2yo0C8n400D" ++
      "a2yo0C8n400Dafxc0C8a5c0Dafxc0C8a5c0Dafxc0C8n400Da2yo0C8n400Da2yo0C8n400Dafxc0C8a5c0Dafxc0" ++
      "C8a5c0Dafxc0C8n400Da2yo0C8n400Da2yo0C8n400Da2yo0C8n400Da2yo0",
    some ⟨2008, ⟨4, 0, 1, -36000, 45900⟩, ⟨9, 6, 23, 50400, 49500⟩⟩⟩,
  ⟨"Pacific/Easter", [-26248, -25200, -21600, -18000],
    "B1x8k1l4CivmeuwB7k580Cc8tg0B6h980Ca31g0B7x3w0Casys0B7x3w0Cb5xg0B7k580Cag040B8a2k0Cb5xg0B7k5" ++
      "80Cb5xg0B7x3w0Casys0B7x3w0Casys0B7x3w0Cb5xg0B7k580Cb5xg0B7k580Cb5xg0B7x3w0Casys0Diq2o0C7x" ++
      "3w0Dasys0C7x3w0Db5xg0C7k580Db5xg0C7k580Db5xg0C9cyk0D9d440C7x3w0Dasys0C7x3w0Db5xg0C7k580D9" ++
      "q2s0C8zzw0Db5xg0C7x3w0Dasys0C7x3w0Dasys0C7x3w0Dasys0C7x3w0Db5xg0C7k580Db5xg0C8n180Da31g0C" ++
      "7x3w0Da31g0C9px80D9q2s0C7x3w0Db5xg0C7k580Db5xg0C7k580Db5xg0C7k580Db5xg0C7x3w0Dasys0C7x3w0" ++
      "Dasys0C7x3w0Db5xg0C7k580Db5xg0C8n180Da31g0C7x3w0Dasys0C8zzw0D9q2s0Cast80D5eis0Ccyl80D6hes" ++
      "0Cc8nw0D6udg0Cbvp80D6udg0Cvonw0D4olg0Ce1h80D4olg0Ce1h80D4olg0Cc8nw0D7x9g0Cast80D7x9g0Cast" ++
      "80D7x9g0Cast80D8a840", some ⟨2023, ⟨4, 0, 2, 10800, -21600⟩, ⟨9, 0, 2, 14400, -18000⟩⟩⟩,
  ⟨"Pacific/Efate", [40396, 39600, 43200],
    "B1mgt7hwCwbu364B51hc0C4y8qs0B9cyk0C9d440B9cyk0C9q2s0B8zzw0C9q2s0B9cyk0C9d440B9cyk0C9d440B9c" ++
      "yk0C9d440B9cyk0C9d440B9cyk0C9q2s0B64ak0Ce1ms0B4ofw0", none⟩,
  ⟨"Pacific/Fakaofo", [-41096, -39600, 46800], "B1gpludkC1lxe1ig", none⟩,
  ⟨"Pacific/Fiji", [42944, 43200, 46800],
    "B1ofwev4C17bs00wB64dc0Ccyo00B5reo0C53a5c0B64dc0Casw00B6uao0Cbvs00B4oio0Ce1k00B4oio0Ceeio0B4" ++
      "bh80Cerk40B3ylc0Cerhc0B3ylc0Cf4g00B3lmo0Cf4g00B3lmo0Cf4g00B3lmo0Cfheo0B38o00Chn6o0B1fuo0",
    none⟩,
  ⟨"Pacific/Galapagos", [-21504, -18000, -21600], "B1wd85xcCspdryoB3lsas0C3jp80", none⟩,
  ⟨"Pacific/Gambier", [-32388, -32400], "B1mubybo", none⟩]

def oceansB : List ZoneRow := [
  ⟨"Pacific/Guadalcanal", [38388, 39600], "B1muafpo", none⟩,
  ⟨"Pacific/Guam", [-51660, 34740, 36000, 32400, 39600],
    "Bnhgaj0Ct83xc0Dld6pp0C1dl9g0E7s1k40Ctxp80E3frms0CqdrpoE7kgacC3ljw0Ec8tg0C6u7w0Ebvus0C6u7w0E" ++
      "16uo40C3ljw0E16aas0C4ivxoEcls2cC6h980", none⟩,
  ⟨"Pacific/Honolulu", [-37886, -37800, -34200, -36000],
    "B1e4bfweCjgnatmB13l00C4jvb00B1wd180Dvotg0", none⟩,
  ⟨"Pacific/Kanton", [0, -43200, -39600, 46800], "B1zuf400Clypqo0D7yiqk0", none⟩,
  ⟨"Pacific/Kiritimati", [-37760, -38400, -36000, 50400], "B1gplrswC153iz5sD7yirhc", none⟩,
  ⟨"Pacific/Kosrae", [-47284, 39116, 39600, 32400, 36000, 43200],
    "Bnhg75gCt83xc0D76a4ykC29hhk0E9cmd40D27sas0C29fk40Fcm2540Cf9l3w0", none⟩,
  ⟨"Pacific/Kwajalein", [40160, 39600, 36000, 32400, -43200, 43200],
    "B1gpk3ogCise0fkD27sas0B1hjus0Eddxug0Fcgv6k0", none⟩,
  ⟨"Pacific/Marquesas", [-33480, -34200], "B1mubz60", none⟩,
  ⟨"Pacific/Nauru", [40060, 41400, 32400, 43200], "B1r61t38Cba66ysB1kwca0Dhfzda0", none⟩,
  ⟨"Pacific/Niue", [-40780, -40800, -39600], "B27qngssC63yiok", none⟩,
  ⟨"Pacific/Norfolk", [40312, 40320, 41400, 45000, 39600, 43200],
    "B1gpk3k8Cq3einsDcfj8q0C6hc00El6nk00F239aq0", some (australian 2020 39600)⟩,
  ⟨"Pacific/Noumea", [39948, 39600, 43200], "B1mgt7ucCye0ixoB4dbw0Cecqs0B4f6k0C99p700B4oio0",
    none⟩,
  ⟨"Pacific/Pago_Pago", [45432, -40968, -39600], "B1ca1ea0C9nfeo0", none⟩,
  ⟨"Pacific/Palau", [-54124, 32276, 32400], "BnhgcfgCt83xc0", none⟩,
  ⟨"Pacific/Pitcairn", [-31220, -30600, -28800], "B1gplmr8C1esg26s", none⟩,
  ⟨"Pacific/Port_Moresby", [35320, 35312, 36000], "B15r0i2wC7tuao8", none⟩,
  ⟨"Pacific/Rarotonga", [48056, -38344, -37800, -34200, -36000],
    "B1g6gw94Crk6io0Ddlv68wE5rbw0Dc8s20E6ham0Dc8s20E6ham0Dc8s20E6u9a0Dc8s20E6ham0Dc8s20E6ham0Dc8" ++
      "s20E6ham0Dc8s20E6ham0Dc8s20E6ham0Dc8s20E6u9a0Dc8s20E6ham0Dc8s20E6ham0Dc8s20E6ham0", none⟩,
  ⟨"Pacific/Tahiti", [-35896, -36000], "B1muc114", none⟩,
  ⟨"Pacific/Tarawa", [41524, 43200], "B1gpk2mk", none⟩,
  ⟨"Pacific/Tongatapu", [44352, 44400, 46800, 50400],
    "B2417sg0C7znjyoDk8amdcC8fpc0Dbvs00C4bh80Deelg0C4bh80D7pmis0C3lmo0", none⟩]

def oceans : List ZoneRow := oceansA ++ oceansB

end HttpJournal.ZoneTable
