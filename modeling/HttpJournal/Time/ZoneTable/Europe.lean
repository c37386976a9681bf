import HttpJournal.Time.ZoneRow

namespace HttpJournal.ZoneTable

def europe : List ZoneRow := [
  ⟨"Europe/Andorra", [364, 0, 3600, 7200],
    "B1gpkydwCnvgqy4Dk3ctg0C9d1c0D9d1c0C9d1c0D9d1c0C9d1c0D9d1c0C9d1c0D9d1c0C9d1c0D9d1c0C9q000D9d" ++
      "1c0C9d1c0D9d1c0C9d1c0D9d1c0C9d1c0D9d1c0C9d1c0D9d1c0C9d1c0", some (european 1996 3600)⟩,
  ⟨"Europe/Astrakhan", [11532, 10800, 14400, 18000],
    "B1svwcfoC37bv8cDqi27w0C9et80D9d440C9et80D9d440C9et80D9eys0C9d6w0D9d1c0C9d1c0D9d1c0C9d1c0D9d" ++
      "1c0C9d1c0D9d1c0C9d1c0Biq5g0C9d1c0B9q000C9d1c0Bs3400C9d1c0B9d1c0C9d1c0B9d1c0C9d1c0B9d1c0C9" ++
      "q000Basw00C7x6o0Basw00C7x6o0Basw00C7x6o0Bb5uo0C7k800Bb5uo0C7k800Bb5uo0C7x6o0Basw00C7x6o0B" ++
      "asw00C7x6o0Bb5uo0C7k800Bb5uo0C7k800Bb5uo0C7k800Bb5uo0C7x6o0Basw00C7x6o0Basw00C7x6o0Bb5uo0" ++
      "C7k800B1vbzw0Cqnc40", none⟩,
  ⟨"Europe/Athens", [5692, 7200, 10800, 3600],
    "B1ou4bnkC8bjasgB2vmk0C4hiw40B16ik0Dscog0B7lx40D9o2k0B9eys0C4atzw0B6djw0Cbplus0Bbq800C71uw0B" ++
      "9d1c0C902o0B91xc0C9o5c0B905g0C9qgo0B9akg0C9iik0B99980C9dcg0B9d1c0C9d1c0B9d1c0C9d1c0B9d1c0" ++
      "C9d1c0B9q000C9d1c0B9d1c0C9d1c0B9d1c0C9d1c0B9d1c0C9d1c0B9d1c0C9d1c0B9d1c0C9d1c0B9q000C9d1c" ++
      "0B9d1c0C9d1c0B9d1c0C9d1c0B9d1c0C9d1c0B9d1c0C9d1c0B9d1c0", some (european 1996 7200)⟩,
  ⟨"Europe/Belgrade", [4920, 3600, 7200],
    "B17u6pjcCtwhnkoBswz00C7k800B9q000C9d1c0B9d1c0Cb7pc0B6qlc0Cjl1hc0B9d1c0C9d1c0B9q000C9d1c0B9d" ++
      "1c0C9d1c0B9d1c0C9d1c0B9d1c0C9d1c0B9d1c0C9d1c0B9d1c0C9d1c0B9q000C9d1c0B9d1c0C9d1c0B9d1c0C9" ++
      "d1c0B9d1c0C9d1c0B9d1c0C9d1c0B9d1c0", some (european 1996 3600)⟩,
  ⟨"Europe/Berlin", [3208, 3600, 7200, 10800],
    "B1cnyauwCc1n0x4B7ves0Ca4yw0B7x6o0Casw00B7x6o0Cb8qdc0B1cm000C7k800B9q000C9d1c0B9d1c0C9d1c0D2" ++
      "o7w0C6bs00B2txg0C7k800B91xc0C9b9g0D1sqk0C2inw0B51k40Ca2yo0B8n400C9q000B902o0Cfx91c0B902o0" ++
      "C9d1c0B9d1c0C9d1c0B9d1c0C9d1c0B9d1c0C9d1c0B9q000C9d1c0B9d1c0C9d1c0B9d1c0C9d1c0B9d1c0C9d1c" ++
      "0B9d1c0C9d1c0B9d1c0C9d1c0B9q000C9d1c0B9d1c0C9d1c0B9d1c0C9d1c0B9d1c0C9d1c0B9d1c0C9d1c0B9d1" ++
      "c0",
    some (european 1996 3600)⟩,
  ⟨"Europe/Brussels", [1050, 0, 3600, 7200],
    "B1c6q000Cbr3hc0Drrx80C7vc00Da4yw0C7x6o0Dasw00C7x6o0B2wh40C5omo0Bb5uo0C6uao0Bcyo00C7ayo0Bbko" ++
      "00C7rmo0Ba2yo0Ca2yo0B8n400C902o0B9q000C9d1c0B9d1c0Ca2yo0B8n400C9q000B902o0Ca2yo0B90b00Ca2" ++
      "yo0B8n400C9q000B902o0Ca2yo0B8n400C9d1c0B9d1c0C902o0Ba2yo0C9d1c0B9d1c0C902o0B9q000Ca2yo0B8" ++
      "n400C9d1c0B9d1c0C902o0B9q000Ca2yo0Bb5uo0C51hc0D4deo0C1a36k0D7k800C9q000D9d1c0C8l9c0Da4tc0" ++
      "C8l9c0Dclpc0C79400Dfwu800C902o0D9q000C9d1c0D9d1c0C9d1c0D9q000C902o0D9d1c0C9d1c0D9d1c0C9d1" ++
      "c0D9d1c0C9d1c0D9d1c0C9q000D9d1c0C9d1c0D9d1c0C9d1c0D9d1c0C9d1c0D9d1c0C9d1c0D9d1c0C9d1c0D9d" ++
      "1c0C9q000D9d1c0C9d1c0D9d1c0C9d1c0D9d1c0C9d1c0D9d1c0C9d1c0D9d1c0C9d1c0",
    some (european 1996 3600)⟩,
  ⟨"Europe/Bucharest", [6264, 7200, 10800],
    "B1wnpci0Cfj8m0B6w5c0C9d1c0B9d1c0C9q000B9d1c0C9d1c0B9d1c0C9d1c0B9d1c0C9d1c0B9d1c0C9d1c0B9d1c" ++
      "0C9d1c0B9d1c0Ckp0dc0B6h980C9q000B905g0C9d6w0B9d1c0C9d1c0B9d1c0C9d1c0B9d1c0C9d1c0B9q000C9d" ++
      "1c0B9d1c0C9d1c0B9d1c0C9d1c0B9d1c0C9d1c0B9d1c0C9d1c0B9d1c0C9d1c0B9q000C9cvs0B9d1c0C9d1c0B9" ++
      "d1c0C9d1c0B9d1c0C9d1c0B9cyk0C9d440B9cyk0C9q2s0Bast80", some (european 1997 7200)⟩,
  ⟨"Europe/Budapest", [4580, 3600, 7200],
    "B1bekxssCdb0dz8B7ves0Ca4yw0B7x6o0Casw00B7x6o0Cauqo0B7vc00Cafxc0B8n400Caq1x00Bthcc0C7k800B9q" ++
      "000C9d1c0B9d1c0Cawd00B9eys0C7pxk0B9rrw0C9b9g0B9d1c0C9d1c0B9d1c0C9q000B902o0C2f4vs0B6u7w0C" ++
      "bw0c0B6uao0Cclpc0B64dc0Cclpc0B64dc0Cbr3bs0B902o0C9d1c0B9d1c0C9d1c0B9d1c0C9d1c0B9d1c0C9d6w" ++
      "0B9q000C9d1c0B9d1c0C9d1c0B9d1c0C9d1c0B9d1c0C9d1c0B9d1c0C9d1c0B9d1c0C9d1c0B9q000C9d1c0B9d1" ++
      "c0C9d1c0B9d1c0C9d1c0B9d1c0C9d1c0B9d1c0C9d1c0B9d1c0", some (european 1996 3600)⟩,
  ⟨"Europe/Chisinau", [6920, 6900, 6264, 7200, 10800, 3600, 14400],
    "B15r13zsCjw96okD70f1toEfj8m0D6w5c0E9d1c0D9d1c0E9q000D9d1c0E9d1c0D9d1c0E9d1c0D9d1c0E9d1c0D9d" ++
      "1c0E9d1c0D9d1c0E9d1c0D9d1c0Egeqo0Dha580Foc8g0D7k800F9q000D9d1c0E7cl00Gj3pbw0E9et80G9d440E" ++
      "9et80G9d440E9et80G9eys0E9d6w0G9d1c0E9d1c0G9d1c0E9d1c0G9d1c0E9d1c0G9d1c0E9d1c0G9d1c0E9d1c0" ++
      "G9d1c0E25p80D7kdk0E9d1c0D9d1c0E9cvs0D9cyk0E9d440D9cyk0E9d440D9cyk0E9d440D9cyk0E9q2s0Dast8" ++
      "0",
    some ⟨1997, ⟨3, 0, 25, 0, 10800⟩, ⟨10, 0, 25, 0, 7200⟩⟩⟩,
  ⟨"Europe/Dublin", [-1521, 2079, 0, 3600],
    "B1oqmpe9C6uao0D9pytrC8c000D9o5c0C9ruo0D9b6o0C9ew00D9b6o0Cauqo0D88ao0C9ew00D8y800Ca2yo0Da2yo" ++
      "0C7k800Dasw00C8a5c0Dasw00C8n400Da2yo0C8n400D9q000C902o0Dafxc0C8n400Da2yo0C8n400D9q000C902" ++
      "o0Da2yo0C8n400Da2yo0C8n400D9q000C9d1c0Da2yo0C8n400D9q000C902o0Da2yo0C8n400Da2yo0C8n400D9q" ++
      "000C902o0Da2yo0Cb5uo0D51hc0C3g8800D8a5c0Cbvs00D8n400Ca2yo0D7x6o0Casw00D8n400C9q000D902o0C" ++
      "9q000D9d1c0C9q000D902o0C8n400D9q000C902o0Da2yo0C8n400Dafxc0C8n400D9q000C902o0Da2yo0C8n400" ++
      "Da2yo0C8n400D9q000C902o0D902o0Cb5uo0D7k800Cb5uo0D7x6o0Casw00D7k800Cb5uo0D7k800Cb5uo0D7k80" ++
      "0Cb5uo0D7k800Cbitc0D5reo0C1xhuo0D779c0Cbitc0D779c0Cbitc0D779c0Cbitc0D779c0Cbitc0D7k800Cb5" ++
      "uo0D7k800Cb5uo0D7k800Cbitc0D779c0Cbitc0D779c0Cbitc0D7x3w0Casw00D7x6o0Casw00D7x6o0Casw00D7" ++
      "x6o0Cb5uo0D7x6o0Casw00D7x6o0Casw00D7x6o0Casw00D7x6o0Casw00D7x6o0Cb5uo0D7k800Cb5uo0D7x6o0C" ++
      "asw00D7x6o0Casw00D7x6o0Casw00D7x6o0Casw00D7x6o0Casw00", some (european 1996 0)⟩,
  ⟨"Europe/Gibraltar", [-1284, 0, 3600, 7200],
    "B1621kzoCiol38cB6uao0C9q000B8c000C9o5c0B9ruo0C9b6o0B9ew00C9b6o0Bauqo0C88ao0B9ew00C8y800Ba2y" ++
      "o0Ca2yo0B7k800Casw00B8a5c0Casw00B8n400Ca2yo0B8n400C9q000B902o0Cafxc0B8n400Ca2yo0B8n400C9q" ++
      "000B902o0Ca2yo0B8n400Ca2yo0B8n400C9q000B9d1c0Ca2yo0B8n400C9q000B902o0Ca2yo0B8n400Ca2yo0B8" ++
      "n400C9q000B902o0Ca2yo0Bb5uo0C51hc0Dmbmk0C51hc0Dc8qo0C6hc00Dc8qo0C6uao0Dbvs00C8n400Da4tc0C" ++
      "5clc0B4bms0C9q000B902o0C8a5c0D1frw0C64dc0B4bms0C6uao0Bbvs00C7x6o0Basw00C8n400B9q000C902o0" ++
      "B9q000C9d1c0B9q000C902o0B8n400C9q000B902o0Ca2yo0B8n400Cafxc0B8n400C9q000Dd0tp80C9d1c0D9d1" ++
      "c0C9d1c0D9d1c0C9q000D9d1c0C9d1c0D9d1c0C9d1c0D9d1c0C9d1c0D9d1c0C9d1c0D9d1c0C9d1c0D9d1c0C9q" ++
      "000D9d1c0C9d1c0D9d1c0C9d1c0D9d1c0C9d1c0D9d1c0C9d1c0D9d1c0C9d1c0", some (european 1996 3600)⟩,
  ⟨"Europe/Helsinki", [5989, 7200, 10800],
    "B1rbiu1nCax3tqdB9gqo0Ck31s80B9d1c0C9d1c0B9d1c0C9d440B9d1c0C9d1c0B9q000C9d1c0B9d1c0C9d1c0B9d" ++
      "1c0C9d1c0B9d1c0C9d1c0B9d1c0C9d1c0B9d1c0C9d1c0B9q000C9d1c0B9d1c0C9d1c0B9d1c0C9d1c0B9d1c0C9" ++
      "d1c0B9d1c0C9d1c0B9d1c0", some (european 1996 7200)⟩,
  ⟨"Europe/Istanbul", [6952, 7016, 7200, 10800, 14400],
    "B15r13ywCg1oam8D2wvx6wC7v980D1tjc40Caunw0D88dg0C9et80D8yas0Ca2vw0Dtzpg0C79180Dawo40C7v980D7" ++
      "p4040C4zjw0D2vs40Cf4d80D9vms0C1u5ek0Dc5440C69uk0Dacas0C8n180Da31g0C8n180D9q2s0C8zzw0Da31g" ++
      "0C8zzw0Da31g0C8n180D5md9g0Co9zw0Da6qs0C75bw0D4iwyw0C7x6o0D7kas0Cb5rw0D75hg0Cbkl80D77c40Cb" ++
      "iqk0D7x9g0Ca2vw0D8n6s0E2s3mk0D38l80Ckdes0D8qtc0C8a5c0D9ew00C9d1c0D9d1c0C9d1c0D9d1c0C9d1c0" ++
      "D9d1c0C9d1c0D9d1c0C9q000D9d1c0C9d1c0D9d1c0C9d1c0D9d1c0C9d1c0D902o0C9q000D9d1c0C9d1c0D9q00" ++
      "0Casw00D7x6o0Casw00D7x6o0Casw00D7x6o0Cb5uo0D7k800Cb5uo0D7k800Cb5uo0D7x6o0Casw00D7x6o0Casw" ++
      "00D7x6o0Cb5uo0D7k800Cb5uo0D7k800Cb5uo0D7kdk0Cb5uo0D7x6o0Casw00D7x6o0Casw00D7x6o0Cb5uo0D7m" ++
      "2o0Cb4000D7k800Cb5uo0D7x6o0Casw00D7z1c0Car1c0D7x6o0Cbitc0D779c0", none⟩,
  ⟨"Europe/Kaliningrad", [4920, 3600, 7200, 10800, 14400],
    "B1cny9jcCc1n28oB7ves0Ca4yw0B7x6o0Casw00B7x6o0Cb8qdc0B1cm000C7k800B9q000C9d1c0B9d1c0C9d1c0D1" ++
      "dro0C9kd80D82tg0Ei9avw0D9et80E9d440D9et80E9d440D9et80E9eys0D9d6w0E9d1c0D9d1c0E9d1c0D9d1c0" ++
      "E9d1c0D9d1c0E9d1c0D9d1c0Ciq5g0D9d1c0C9q000D9d1c0C9d1c0D9d1c0C9d1c0D9d1c0C9d1c0D9d1c0C9d1c" ++
      "0D9d1c0C9d1c0D9q000Casw00D7x6o0Casw00D7x6o0Casw00D7x6o0Cb5uo0D7k800Cb5uo0D7k800Cb5uo0D7x6" ++
      "o0Casw00D7x6o0Casw00D7x6o0Cb5uo0D7k800Cb5uo0D7k800Cb5uo0D7k800Cb5uo0D7x6o0Casw00D7x6o0Cas" ++
      "w00D7x6o0Cb5uo0D7k800C1vbzw0", none⟩,
  ⟨"Europe/Kirov", [11928, 10800, 14400, 18000],
    "B1qd2800C5q5zo0Dqi27w0C9et80D9d440C9et80D9d440C9et80D9eys0C9d6w0D9d1c0C9d1c0D9d1c0C9d1c0D9d" ++
      "1c0C9d1c0D9d1c0C9d1c0Biq5g0C9d1c0B9q000C9d1c0Bs3400C9d1c0B9d1c0C9d1c0B9d1c0C9d1c0B9d1c0C9" ++
      "q000Basw00C7x6o0Basw00C7x6o0Basw00C7x6o0Bb5uo0C7k800Bb5uo0C7k800Bb5uo0C7x6o0Basw00C7x6o0B" ++
      "asw00C7x6o0Bb5uo0C7k800Bb5uo0C7k800Bb5uo0C7k800Bb5uo0C7x6o0Basw00C7x6o0Basw00C7x6o0Bb5uo0" ++
      "C7k800B1vbzw0", none⟩,
  ⟨"Europe/Kyiv", [7324, 7200, 10800, 3600, 14400],
    "B1svyackC37a03gB5vd6k0Dkzv40B7k800D9q000C1oyg0Ejipzs0C9et80E9d440C9et80E9d440C9et80E9eys0C9" ++
      "d6w0E9d1c0C9d1c0E9d1c0C9d1c0E9d1c0C9d1c0E9d1c0C9d1c0E9d1c0C9d1c0E9d1c0C51ek0Bneqw0C9d1c0B" ++
      "9d1c0C9d1c0B9d1c0C9d1c0B9d1c0C9d1c0B9d1c0C9q000Basys0", some (european 1997 7200)⟩,
  ⟨"Europe/Lisbon", [-2205, 0, 3600, 7200],
    "B1mg7uo0C2bufw0B6zxg0C66800Bbq580C71s40Bbq580C71s40Bbq580C73ms0Bbq580C71s40Bbq580C1b2g00B8s" ++
      "o00Cst1c0B8n400C9q000B902o0Ca2yo0B902o0Ca2yo0B8n400Cst1c0B8n400C9d1c0B9d1c0Csg2o0B9d1c0C9" ++
      "02o0B9q000Ca2yo0B8n400C9d1c0B9d1c0C902o0B9q000Ca2yo0Bb5uo0C51hc0Bbmio0C99c00B9ew00C88ao0D" ++
      "25p80C5reo0B3lpg0C779c0D1sqk0C6uao0B38qs0C6uao0D25p80C6hc00B38qs0C6uao0D25p80C6hc00B38qs0" ++
      "C8a5c0B9d1c0C9d9o0B9d1c0C9d1c0B9d1c0C9d1c0B9d1c0C9d1c0B9d1c0C9d1c0B9q000C9d1c0B9d1c0C9d1c" ++
      "0B9d1c0C9d1c0B9d1c0C9d1c0B9d1c0C9d1c0B9q000C9d1c0B9d1c0C9d1c0B9d1c0C9d1c0B9d1c0C9d1c0B9d1" ++
      "c0C9d1c0B9d1c0C9d1c0B9q000C9d1c0B9d1c0C9d1c0B9d1c0C9d1c0B9d1c0C9d1c0B5gyl40C9d1c0B9d1c0C9" ++
      "q2s0B9d1c0C9d1c0B9d1c0C9q000B902o0C9cyk0B9d1c0C9d1c0B9d1c0C9d1c0B9d1c0C9d1c0B9q000C9d1c0B" ++
      "9d1c0C9d440B9d1c0C9d1c0B9d1c0C9d1c0B9d1c0C9d1c0B9d1c0C9d1c0B9q000C9d1c0B9d1c0C9d1c0Diq2o0" ++
      "C9d1c0D9d1c0C9d1c0D9d1c0C9d1c0Bkiw00", some (european 1997 0)⟩,
  ⟨"Europe/London", [-75, 0, 3600, 7200],
    "Bp07eq3Czqf9hxB6uao0C9q000B8c000C9o5c0B9ruo0C9b6o0B9ew00C9b6o0Bauqo0C88ao0B9ew00C8y800Ba2yo" ++
      "0Ca2yo0B7k800Casw00B8a5c0Casw00B8n400Ca2yo0B8n400C9q000B902o0Cafxc0B8n400Ca2yo0B8n400C9q0" ++
      "00B902o0Ca2yo0B8n400Ca2yo0B8n400C9q000B9d1c0Ca2yo0B8n400C9q000B902o0Ca2yo0B8n400Ca2yo0B8n" ++
      "400C9q000B902o0Ca2yo0Bb5uo0C51hc0Dmbmk0C51hc0Dc8qo0C6hc00Dc8qo0C6uao0Dbvs00C8n400Da4tc0C5" ++
      "clc0B4bms0C9q000B902o0C8a5c0D1frw0C64dc0B4bms0C6uao0Bbvs00C7x6o0Basw00C8n400B9q000C902o0B" ++
      "9q000C9d1c0B9q000C902o0B8n400C9q000B902o0Ca2yo0B8n400Cafxc0B8n400C9q000B902o0Ca2yo0B8n400" ++
      "Ca2yo0B8n400C9q000B902o0C902o0Bb5uo0C7k800Bb5uo0C7x6o0Basw00C7k800Bb5uo0C7k800Bb5uo0C7k80" ++
      "0Bb5uo0C7k800Bbitc0C5reo0B1xhuo0C779c0Bbitc0C779c0Bbitc0C779c0Bbitc0C779c0Bbitc0C7k800Bb5" ++
      "uo0C7k800Bb5uo0C7k800Bbitc0C779c0Bbitc0C779c0Bbitc0C7x3w0Basw00C7x6o0Basw00C7x6o0Basw00C7" ++
      "x6o0Bb5uo0C7x6o0Basw00C7x6o0Basw00C7x6o0Basw00C7x6o0Basw00C7x6o0Bb5uo0C7k800Bb5uo0C7x6o0B" ++
      "asw00C7x6o0Basw00C7x6o0Basw00C7x6o0Basw00C7x6o0Basw00", some (european 1996 0)⟩,
  ⟨"Europe/Madrid", [-884, 0, 3600, 7200],
    "B1gpkyo0C90sik0B8yas0C9cyk0B9eys0C2d2vw0B8sqs0Cssyk0B8n6s0C9px80B905g0Ca2yo0B902o0Ca2vw0B8n" ++
      "6s0C40lh80B5k2s0C9cyk0D1frw0C7z1c0Bj1c80C8a2k0D13yt80C685g0Dbrzw0C8n6s0Da2vw0C8n6s0Da2vw0" ++
      "C8n6s0Da2vw0C8n6s0D1clx80C7x9g0Dcswik0C905g0D9px80C905g0D8zzw0C9d440D9px80C905g0D9q5k0C9d" ++
      "1c0D9d1c0C9d1c0D9q000C902o0D9d1c0C9d1c0D9d1c0C9d1c0D9d1c0C9d1c0D9d1c0C9q000D9d1c0C9d1c0D9" ++
      "d1c0C9d1c0D9d1c0C9d1c0D9d1c0C9d1c0D9d1c0C9d1c0D9d1c0C9q000D9d1c0C9d1c0D9d1c0C9d1c0D9d1c0C" ++
      "9d1c0D9d1c0C9d1c0D9d1c0C9d1c0", some (european 1996 3600)⟩,
  ⟨"Europe/Malta", [3484, 3600, 7200],
    "B1cz0fz8Cbsbx8sB64ak0C9d440B9et80C88dg0Baunw0C7ig40Bb5rw0C8n6s0B9cyk0Caau2s0B18r9k0C7k800B9" ++
      "q000C9b6o0B8n400Ca4tc0B8j940C9f1k0Bafxc0C89zs0Bafxc0C7kdk0Bb5uo0C979rs0B6h980Ccls40B64dc0" ++
      "Cclpc0B64dc0Ccyo00B64dc0Cclpc0B64dc0Cc8qo0B6hc00Cclpc0B6hc00C9b6o0B9d1c0Cahs00B7m2o0Cb45k" ++
      "0B7x3w0Casys0B7x3w0Casys0B7x3w0Casys0B7x3w0Casys0B7x3w0Ca4w40B8y580C9q2s0B9d1c0C9d1c0B9d1" ++
      "c0C9d1c0B9d1c0C9d1c0B9q000C9d1c0B9d1c0C9d1c0B9d1c0C9d1c0B9d1c0C9d1c0B9d1c0C9d1c0B9d1c0C9d" ++
      "1c0B9q000C9d1c0B9d1c0C9d1c0B9d1c0C9d1c0B9d1c0C9d1c0B9d1c0C9d1c0B9d1c0",
    some (european 1996 3600)⟩,
  ⟨"Europe/Minsk", [6616, 6600, 7200, 10800, 3600, 14400],
    "B15r1488Cn4x6ogD379zjcC5r1mk0Epbf40C7k800E9q000C9d1c0D4oac0Fj6dmk0D9et80F9d440D9et80F9d440D" ++
      "9et80F9eys0D9d6w0F9d1c0D9d1c0F9d1c0D9d1c0F9d1c0D9d1c0F9d1c0D9d1c0F9d1c0D9d1c0C11t6s0D9d1c" ++
      "0C9d1c0D9d1c0C9d1c0D9d1c0C9d1c0D9d1c0C9d1c0D9q000Casw00D7x6o0Casw00D7x6o0Casw00D7x6o0Cb5u" ++
      "o0D7k800Cb5uo0D7k800Cb5uo0D7x6o0Casw00D7x6o0Casw00D7x6o0Cb5uo0D7k800Cb5uo0D7k800Cb5uo0D7k" ++
      "800Cb5uo0D7x6o0Casw00D7x6o0Casw00D7x6o0Cb5uo0D7k800", none⟩,
  ⟨"Europe/Moscow", [9017, 9079, 12679, 16279, 14400, 10800, 18000, 7200],
    "B1ostydjCipzuaB97hc0D7yyk0C5i840Dd9p80E1jwk7F2cvk0Es8o00G1qvw0E8fpc0F1jms0His040F412as0Eqi2" ++
      "7w0F9et80E9d440F9et80E9d440F9et80E9eys0F9d6w0E9d1c0F9d1c0E9d1c0F9d1c0E9d1c0F9d1c0E9d1c0F9" ++
      "d1c0E9d1c0F9d1c0E9d1c0F9q000Hiq5g0F5reo0E3ljw0F9d1c0E9d1c0F9d1c0E9d1c0F9d1c0E9d1c0F9d1c0E" ++
      "9q000Fasw00E7x6o0Fasw00E7x6o0Fasw00E7x6o0Fb5uo0E7k800Fb5uo0E7k800Fb5uo0E7x6o0Fasw00E7x6o0" ++
      "Fasw00E7x6o0Fb5uo0E7k800Fb5uo0E7k800Fb5uo0E7k800Fb5uo0E7x6o0Fasw00E7x6o0Fasw00E7x6o0Fb5uo" ++
      "0E7k800F1vbzw0", none⟩,
  ⟨"Europe/Paris", [561, 0, 3600, 7200],
    "B1m0zowfC2qx1nlB5luo0C8y800Ba4tc0C7vc00Bauqo0C7idc0Bb7pc0C6sg00Bcyo00C7ayo0Bbko00C7rmo0Ba2y" ++
      "o0Cbvs00B6uao0C902o0B9q000C9d1c0B9d1c0Ca2yo0B8n400C9q000B902o0Ca2yo0B902o0Ca2yo0B8n400C9q" ++
      "000B902o0Ca2yo0B8n400C9d1c0B9d1c0C902o0Ba2yo0C9d1c0B9d1c0C902o0B9q000Ca2yo0B8n400C9d1c0B9" ++
      "d1c0C902o0B9q000Ca2yo0Bb5uo0C51po0D5p8w0C18rcc0D7k800C9q000D9d1c0C9nzs0D922w0C8l9c0Dfxlx8" ++
      "0C9cyk0D9q5k0C902o0D9q000C9d1c0D9d1c0C9d1c0D9q000C902o0D9d1c0C9d1c0D9d1c0C9d1c0D9d1c0C9d1" ++
      "c0D9d1c0C9q000D9d1c0C9d1c0D9d1c0C9d1c0D9d1c0C9d1c0D9d1c0C9d1c0D9d1c0C9d1c0D9d1c0C9q000D9d" ++
      "1c0C9d1c0D9d1c0C9d1c0D9d1c0C9d1c0D9d1c0C9d1c0D9d1c0C9d1c0", some (european 1996 3600)⟩,
  ⟨"Europe/Prague", [3464, 3600, 7200, 0],
    "B1bvrhbsCcttug8B7ves0Ca4yw0B7x6o0Casw00B7x6o0Cb8qdc0B1cm000C7k800B9q000C9d1c0B9d1c0C9d1c0B9" ++
      "d1c0Cb5uo0B7vc00D2vs40B4bk00C2vmk0B8n400Ca2yo0B8n400C9o5c0B91xc0Cfe6000B9d1c0C9q000B902o0" ++
      "C9d1c0B9d1c0C9d1c0B9d1c0C9d1c0B9d1c0C9d1c0B9q000C9d1c0B9d1c0C9d1c0B9d1c0C9d1c0B9d1c0C9d1c" ++
      "0B9d1c0C9d1c0B9d1c0C9d1c0B9q000C9d1c0B9d1c0C9d1c0B9d1c0C9d1c0B9d1c0C9d1c0B9d1c0C9d1c0B9d1" ++
      "c0",
    some (european 1996 3600)⟩,
  ⟨"Europe/Riga", [5794, 9394, 7200, 10800, 3600, 14400],
    "B1pqbqf2A7x6o0Ba4tc0A2mg00C3myns0D7fhlkyCgz180Ep5v40C7k800E9q000C9d1c0E9d1c0Dk7s0Fj14ns0D9e" ++
      "t80F9d440D9et80F9d440D9et80F9eys0D9d6w0F9d1c0D9d1c0F9d1c0D9d1c0F9d1c0D9d1c0F9d1c0D9d1c0Ci" ++
      "q5g0D9d1c0C9q000D9d1c0C9d1c0D9d1c0C9d1c0D9d1c0C9d1c0D9d1c0C9d1c0D9d1c0C9d1c0D9q000C9d1c0D" ++
      "9d440Casw00D7x6o0Casw00D7x6o0Cb5uo0", some (european 2001 7200)⟩,
  ⟨"Europe/Rome", [2996, 3600, 7200],
    "B1cyyl80Cbsds00B64ak0C9d440B9et80C88dg0Baunw0C7ig40Bb5rw0C8n6s0B9cyk0Caau2s0B18r9k0C7k800B9" ++
      "q000C9d1c0B8l9c0Ca4tc0B8j940C9f1k0Bafxc0C89zs0Bafxc0C7kdk0Bb5uo0C979rs0B6h980Ccls40B64dc0" ++
      "Cclpc0B64dc0Ccyo00B64dc0Cclpc0B64dc0Cc8qo0B6hc00Cclpc0B6hc00Cclpc0B64dc0Cc8qo0B6hc00Cclpc" ++
      "0B64dc0Cclpc0B64dc0Cc8qo0B6hc00Cclpc0B6hc00Cc8qo0B6hc00C9q5k0B902o0C9d1c0B9d1c0C9d1c0B9d1" ++
      "c0C9d1c0B9d1c0C9d1c0B9q000C9d1c0B9d1c0C9d1c0B9d1c0C9d1c0B9d1c0C9d1c0B9d1c0C9d1c0B9d1c0C9d" ++
      "1c0B9q000C9d1c0B9d1c0C9d1c0B9d1c0C9d1c0B9d1c0C9d1c0B9d1c0C9d1c0B9d1c0",
    some (european 1996 3600)⟩,
  ⟨"Europe/Samara", [12020, 10800, 14400, 18000],
    "B1qd2800C5q5zo0Dqi27w0C9et80D9d440C9et80D9d440C9et80D9eys0C9d6w0D9d1c0C9d1c0D9d1c0C9d1c0D9d" ++
      "1c0C9d1c0D9d1c0C9d1c0Biq5g0C9d1c0B9q000Cjt1g0D89zs0C9d1c0D9d1c0C9d1c0D9d1c0C9d1c0D9d1c0C9" ++
      "d1c0D9q000Casw00D7x6o0Casw00D7x6o0Casw00D7x6o0Cb5uo0D7k800Cb5uo0D7k800Cb5uo0D7x6o0Casw00D" ++
      "7x6o0Casw00D7x6o0Cb5uo0D7k800Cb5uo0D7k800Cb5uo0D7k800Cb5uo0D7x6o0Casw00D7x6o0Casw00Bj3440" ++
      "C7k800",
    none⟩,
  ⟨"Europe/Saratov", [11058, 10800, 14400, 18000],
    "B1qd2800C5q5zo0Dqi27w0C9et80D9d440C9et80D9d440C9et80D9eys0C9d6w0D9d1c0C9d1c0D9d1c0C9d1c0D9d" ++
      "1c0C9d1c0Biq5g0C9d1c0B9d1c0C9d1c0B9q000C9d1c0Bs3400C9d1c0B9d1c0C9d1c0B9d1c0C9d1c0B9d1c0C9" ++
      "q000Basw00C7x6o0Basw00C7x6o0Basw00C7x6o0Bb5uo0C7k800Bb5uo0C7k800Bb5uo0C7x6o0Basw00C7x6o0B" ++
      "asw00C7x6o0Bb5uo0C7k800Bb5uo0C7k800Bb5uo0C7k800Bb5uo0C7x6o0Basw00C7x6o0Basw00C7x6o0Bb5uo0" ++
      "C7k800B1vbzw0C13m040", none⟩,
  ⟨"Europe/Simferopol", [8184, 8160, 7200, 10800, 3600, 14400],
    "B15r130oCn4x6ooD37a0qoC5xiyk0Eiu340C7k800E9q000C9d1c0Diac0Fjajmk0D9et80F9d440D9et80F9d440D9" ++
      "et80F9eys0D9d6w0F9d1c0D9d1c0F9d1c0D9d1c0F9d1c0D9d1c0F9d1c0D9d1c0F9d1c0D9d1c0Ceeio0Dwrpg0C" ++
      "9d1c0D9d1c0C9d1c0D9d1c0F1sl00D7kdk0F9d1c0D9d1c0F9pug0Dat4c0Ciq5g0D7x6o0Casw00D7x6o0Cb5uo0" ++
      "D7k800Cb5uo0D7k800Cb5uo0D7x6o0Casw00D7x6o0Casw00D7x6o0Cb5uo0D7k800Cb5uo0D7k800Cb5uo0D7k80" ++
      "0Cb5uo0D7x6o0Casw00D7x6o0Casw00D7x6o0Cb5uo0D7k800Cb5uo0D7k800Cb5uo0D7x6o0Casw00F7x3w0Dasq" ++
      "g0", none⟩,
  ⟨"Europe/Sofia", [5596, 7016, 7200, 3600, 10800],
    "B15r150kC7s708kDp0d6uwC7k800D9q000C9d1c0D9d1c0C9d440Ehqq240C9eys0E9o2k0C92040E9o2k0C90880E9" ++
      "pug0C90b00E9d1c0C9d1c0E9d1c0C9q000E9d1c0C9d1c0E9d1c0C9d1c0E9d1c0C9d1c0E9d1c0C9d1c0E9d1c0C" ++
      "9d1c0E9d1c0C9q000E9cvs0C9cyk0E9d440C9cyk0E9d440C9cyk0E9d440C9cyk0E9d440C9cyk0E9q2s0Cast80",
    some (european 1997 7200)⟩,
  ⟨"Europe/Tallinn", [5940, 3600, 7200, 10800, 14400],
    "B1pmke30C3re10B7x6o0Aet6g0Cygov0Da1zgd0Cktx80Bl94g0C7k800B9q000C9d1c0D8uac0Ej27mk0D9et80E9d" ++
      "440D9et80E9d440D9et80E9eys0D9d6w0E9d1c0D9d1c0E9d1c0D9d1c0E9d1c0D9d1c0E9d1c0D9d1c0Ciq5g0D9" ++
      "d1c0C9q000D9d1c0C9d1c0D9d1c0C9d1c0D9d1c0C9d1c0D9d1c0C9d1c0D9d1c0C9d1c0D9q000Casw00D7x6o0C" ++
      "asw00D7x6o0Casys0D7x6o0Cb5uo0", some (european 2002 7200)⟩,
  ⟨"Europe/Tirane", [4760, 3600, 7200],
    "B1nhtgbsCdt2gw8B18pew0C7k800Bm800Cg7ot40B7rjw0Cautg0B7x3w0Cayis0B7x3w0Cb5xg0B7k580Cb42s0B7l" ++
      "zw0Cb42s0B7lzw0Cb42s0B7x3w0Cahus0B7x3w0Cb5xg0B7x3w0Ca4w40B8jbw0C9eys0B9d6w0C9d1c0B9d1c0C9" ++
      "d1c0B9d1c0C9d1c0B9d1c0C9d1c0B9d1c0C9d1c0B9d1c0C9d1c0B9q000C9d1c0B9d1c0C9d1c0B9d1c0C9d1c0B" ++
      "9d1c0C9d1c0B9d1c0C9d1c0B9d1c0", some (european 1996 3600)⟩,
  ⟨"Europe/Ulyanovsk", [11616, 10800, 14400, 18000, 7200],
    "B1qd2800C5q5zo0Dqi27w0C9et80D9d440C9et80D9d440C9et80D9eys0C9d6w0D9d1c0C9d1c0D9d1c0C9d1c0D9d" ++
      "1c0C9d1c0D9d1c0C9d1c0Biq5g0C9d1c0B9q000Eiq5g0B5reo0C3ljw0B9d1c0C9d1c0B9d1c0C9d1c0B9d1c0C9" ++
      "d1c0B9d1c0C9q000Basw00C7x6o0Basw00C7x6o0Basw00C7x6o0Bb5uo0C7k800Bb5uo0C7k800Bb5uo0C7x6o0B" ++
      "asw00C7x6o0Basw00C7x6o0Bb5uo0C7k800Bb5uo0C7k800Bb5uo0C7k800Bb5uo0C7x6o0Basw00C7x6o0Basw00" ++
      "C7x6o0Bb5uo0C7k800B1vbzw0Cqnc40", none⟩,
  ⟨"Europe/Vienna", [3921, 3600, 7200],
    "B1cnyab3Cc1n1gxB7ves0Ca4yw0B7x6o0Casw00B7x6o0Ct6000B8a5c0Ca7a800B1cm000C7k800B9q000C9d1c0B9" ++
      "d1c0C9d1c0Biio0Civmo0B91xc0C9b6o0B9d1c0Ca2yo0B8n400Cgfyyg0B8zzw0C9d9o0B9d1c0C9d1c0B9d1c0C" ++
      "9d1c0B9d1c0C9d1c0B9q000C9d1c0B9d1c0C9d1c0B9d1c0C9d1c0B9d1c0C9d1c0B9d1c0C9d1c0B9d1c0C9d1c0" ++
      "B9q000C9d1c0B9d1c0C9d1c0B9d1c0C9d1c0B9d1c0C9d1c0B9d1c0C9d1c0B9d1c0",
    some (european 1996 3600)⟩,
  ⟨"Europe/Vilnius", [6076, 5040, 5736, 3600, 7200, 10800, 14400],
    "B15r14n8Cjb5y4sD1g224oEe75ncD4kqk0Facbs40Egpp40Dpits0E7k800D9q000E9d1c0F65zo0Gj4vx80F9et80G" ++
      "9d440F9et80G9d440F9et80G9eys0F9d6w0G9d1c0F9d1c0G9d1c0F9d1c0G9d1c0F9d1c0G9d1c0F9d1c0Eiq5g0" ++
      "F9d1c0E9q000F9d1c0E9d1c0F9d1c0E9d1c0F9d1c0E9d1c0F9d1c0E9d1c0F9d1c0E9d1c0F9q000Easw00F7x6o" ++
      "0Easw00Diq5g0E7x6o0", some (european 2003 7200)⟩,
  ⟨"Europe/Volgograd", [10660, 10800, 14400, 18000],
    "B1qmmfrwC5glrw4Dqi27w0C9et80D9d440C9et80D9d440C9et80D9eys0C9d6w0D9d1c0C9d1c0D9d1c0C9d1c0D9d" ++
      "1c0C9d1c0Biq5g0C9d1c0B9d1c0C9d1c0B9q000C9d1c0Bs3400C9d1c0B9d1c0C9d1c0B9d1c0C9d1c0B9d1c0C9" ++
      "q000Basw00C7x6o0Basw00C7x6o0Basw00C7x6o0Bb5uo0C7k800Bb5uo0C7k800Bb5uo0C7x6o0Basw00C7x6o0B" ++
      "asw00C7x6o0Bb5uo0C7k800Bb5uo0C7k800Bb5uo0C7k800Bb5uo0C7x6o0Basw00C7x6o0Basw00C7x6o0Bb5uo0" ++
      "C7k800B1vbzw0C239c40B14oqk0", none⟩,
  ⟨"Europe/Warsaw", [5040, 3600, 7200, 10800],
    "B1obpdg0Cdvyc0B7ves0Ca4yw0B7x6o0Casw00Diruk0C7x6o0B1evbs0C9fcwc0B18cao0C7k800B9q000C9d1c0B9" ++
      "gnw0Can980B9kd80C8fs40B922w0Car1c0B7x6o0Ca2yo0B8n400C9q000B902o0C4013w0B64dc0C9d1c0B9d1c0" ++
      "Cclpc0B6hc00C9d1c0B9d1c0Cc8qo0B6hc00Cc8qo0B6hc00Cc8qo0B6hc00Cclpc0B64dc0C6j4tc0B902o0C9q0" ++
      "00B9d1c0C9d1c0B9d1c0C9q000B902o0C9d1c0B9d1c0C9d1c0B9d1c0C9d1c0B9d1c0C9d1c0B9q000C9d1c0B9d" ++
      "1c0C9d1c0B9d1c0C9d1c0B9d1c0C9d440B9d1c0C9d1c0B9d1c0C9d1c0B9q000C9d1c0B9d1c0C9d1c0B9d1c0C9" ++
      "d1c0B9d1c0C9d1c0B9d1c0C9d1c0B9d1c0", some (european 1996 3600)⟩,
  ⟨"Europe/Zurich", [2048, 1786, 3600, 7200],
    "Brxv2f4Clc05jaDohmxdmC7x6o0Dasw00C7x6o0Dk2zus0C9d1c0D9d1c0C9d1c0D9d1c0C9d1c0D9d1c0C9q000D9d" ++
      "1c0C9d1c0D9d1c0C9d1c0D9d1c0C9d1c0D9d1c0C9d1c0D9d1c0C9d1c0D9d1c0C9q000D9d1c0C9d1c0D9d1c0C9" ++
      "d1c0D9d1c0C9d1c0D9d1c0C9d1c0D9d1c0C9d1c0", some (european 1996 3600)⟩]

end HttpJournal.ZoneTable
