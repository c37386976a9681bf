import HttpJournal.Time.ZoneRow

namespace HttpJournal.ZoneTable

def africa : List ZoneRow := [
  ⟨"Africa/Abidjan", [-968, 0], "B1mg7vew", none⟩,
  ⟨"Africa/Algiers", [732, 561, 0, 3600, 7200],
    "B1blj0roCafgo4rD2qx1nlC5luo0D8y800Ca4tc0D7vc00Cauqo0D7idc0Cb7pc0D6sg00Ccyo00D7ayo0C53c00D9i" ++
      "dxc0C3i040D51mw0E253uk0D9o2k0E92040D8l3s0Cjutc0D4uy840C3rdzw0D46xc00C7x6o0D2xco40Egkao0D9" ++
      "d440Ckiqg0D9d440C9q2s0D9cyk0", none⟩,
  ⟨"Africa/Bissau", [-3740, -3600, 0], "B1mg7xg0Cwvoyo0", none⟩,
  ⟨"Africa/Cairo", [7509, 7200, 10800],
    "B1gkufjfCkrj48lB40d80Ca31g0B7x3w0Ca4w40Baqyk0C80ys0Bb07w0C7tk40Bb07w0C8jhg0Ba8fw0C60go40B7e" ++
      "l80Cawo40B7v980Cawqw0B7tk40Cb07w0B7tk40Cayd80B7tk40Cayd80B7tk40Cayd80B7tk40Cb07w0B7tk40Ca" ++
      "yd80B7tk40Cayd80B7ves0Cawik0B7ves0Cayd80B7ves0Cawik0B7ves0Cawik0B7ves0Cawik0B7ves0Cayd80B" ++
      "7ves0Cawik0B7ves0Cawik0B7ves0Cawik0B7ves0Cayd80B7ves0Cawik0B7ves0Cawik0B7ves0Cawik0B7ves0" ++
      "Cayd80B7ves0Cawik0B7ves0Cf9x80B3i040Celuk0B462s0Cayd80B7ves0Cawik0B7ves0Cawik0B7ves0Cawik" ++
      "0B7ves0Cayd80B7ves0Cb5rw0B7m5g0Cawik0B7ves0Cawik0B7ves0Cayd80B7ves0Cawik0B7ves0Cawik0B7ve" ++
      "s0Caqvs0B7x3w0Casys0B7x3w0Casys0B7x3w0Casys0B7x3w0Cb5xg0B7x3w0Casys0B7x3w0Casys0B7x3w0Cas" ++
      "ys0B7x3w0Casys0B7x3w0Cb5xg0B7x3w0Casys0B7x3w0Casys0B7k580Cb5xg0B6u7w0Cbvus0B6h980Cc8tg0B6" ++
      "4ak0Ccyqs0B5anw0C1jms0B12t80C1w22s0B25p80C1sw40B2vmk0",
    some ⟨2023, ⟨4, 4, 23, 79200, 10800⟩, ⟨10, 4, 25, 75600, 7200⟩⟩⟩,
  ⟨"Africa/Casablanca", [-1820, 0, 3600],
    "B1nediqkCdi7nxgB3huk0C51k40B2znuk0C2dp9g0B776k0C8nt2s0B657w0C3ifxg0B3jp80Cva040B4qak0Ce1ms0" ++
      "B7pp80Ccnms0B3afw0C2xi840Bxqqk0Cbp56s0B4qak0Ce1ms0B45x80Cd2g40B51ek0Cc8tg0B64ak0Ce1sc0B47" ++
      "uo0C1leo0B23xc0Casw00B3lmo0C1qyo0B40g00C7x6o0B4mo00C1stc0B4deo0C7x6o0B3ylc0C1stc0B51hc0C7" ++
      "x6o0B3lmo0C1stc0B5reo0C7k800B2vpc0C25s00B64dc0C7k800B2iqo0C1stc0Bgkao0C1stc0Bg7c00C25s00B" ++
      "g7c00C1stc0Bg7c00C25s00Bg7c00C1stc0Bgkao0C1stc0Bg7c00C25s00Bg7c00C1stc0Bgkao0C1stc0Bg7c00" ++
      "C25s00Bg7c00C1stc0Bg7c00C25s00Bg7c00C1stc0Bgkao0C1stc0Bg7c00C25s00Bg7c00C1stc0Bg7c00C25s0" ++
      "0Bg7c00C25s00Bg7c00C1stc0Bg7c00C25s00Bg7c00C1stc0Bgkao0C1stc0Bg7c00C25s00Bg7c00C1stc0Bg7c" ++
      "00C25s00Bg7c00C25s00Bg7c00C1stc0Bg7c00C25s00Bg7c00C1stc0Bgkao0C1stc0Bg7c00C25s00Bg7c00C1s" ++
      "tc0Bg7c00C25s00Bg7c00C25s00Bg7c00C1stc0Bg7c00C25s00Bg7c00C1stc0Bgkao0C1stc0Bg7c00C25s00Bg" ++
      "7c00C1stc0Bg7c00C25s00Bg7c00C25s00Bg7c00C1stc0Bg7c00C25s00Bg7c00C1stc0Bgkao0C1stc0Bg7c00C" ++
      "25s00Bg7c00C1stc0Bg7c00C25s00Bg7c00C25s00Bg7c00C1stc0Bg7c00C25s00Bg7c00C1stc0Bgkao0C1stc0" ++
      "Bg7c00C25s00Bg7c00C1stc0Bg7c00C25s00Bg7c00C25s00Bg7c00C1stc0Bg7c00C25s00Bg7c00C1stc0Bgkao" ++
      "0C1stc0Bg7c00C25s00Bg7c00C1stc0Bg7c00C25s00Bg7c00C1stc0Bgkao0C1stc0Bg7c00C25s00Bg7c00C1st" ++
      "c0Bgkao0C1stc0Bg7c00C25s00", none⟩,
  ⟨"Africa/Ceuta", [-1276, 0, 3600, 7200],
    "B1gpkyo0C91vek0B7x3w0C2vt440B8sqs0Cssyk0B8n6s0C9px80B905g0Ca2yo0B902o0Ck69dc0B657w0C3ifxg0B" ++
      "3jp80Cva040B4qak0Ce1ms0B7pp80Ccnms0B3afw0C2xi840D129us0C9d1c0D9d1c0C9d1c0D9d1c0C9d1c0D9d1" ++
      "c0C9d1c0D9d1c0C9q000D9d1c0C9d1c0D9d1c0C9d1c0D9d1c0C9d1c0D9d1c0C9d1c0D9d1c0C9d1c0",
    some (european 1996 3600)⟩,
  ⟨"Africa/El_Aaiun", [-3168, -3600, 0, 3600],
    "B1xxleg0Cm2g0c0Dvek0C4qak0De1ms0C7pp80Dcnms0C3afw0Dfke5g0C4qak0De1ms0C45x80Dd2g40C51ek0Dc8t" ++
      "g0C64ak0De1sc0C47uo0D1leo0C23xc0Dasw00C3lmo0D1qyo0C40g00D7x6o0C4mo00D1stc0C4deo0D7x6o0C3y" ++
      "lc0D1stc0C51hc0D7x6o0C3lmo0D1stc0C5reo0D7k800C2vpc0D25s00C64dc0D7k800C2iqo0D1stc0Cgkao0D1" ++
      "stc0Cg7c00D25s00Cg7c00D1stc0Cg7c00D25s00Cg7c00D1stc0Cgkao0D1stc0Cg7c00D25s00Cg7c00D1stc0C" ++
      "gkao0D1stc0Cg7c00D25s00Cg7c00D1stc0Cg7c00D25s00Cg7c00D1stc0Cgkao0D1stc0Cg7c00D25s00Cg7c00" ++
      "D1stc0Cg7c00D25s00Cg7c00D25s00Cg7c00D1stc0Cg7c00D25s00Cg7c00D1stc0Cgkao0D1stc0Cg7c00D25s0" ++
      "0Cg7c00D1stc0Cg7c00D25s00Cg7c00D25s00Cg7c00D1stc0Cg7c00D25s00Cg7c00D1stc0Cgkao0D1stc0Cg7c" ++
      "00D25s00Cg7c00D1stc0Cg7c00D25s00Cg7c00D25s00Cg7c00D1stc0Cg7c00D25s00Cg7c00D1stc0Cgkao0D1s" ++
      "tc0Cg7c00D25s00Cg7c00D1stc0Cg7c00D25s00Cg7c00D25s00Cg7c00D1stc0Cg7c00D25s00Cg7c00D1stc0Cg" ++
      "kao0D1stc0Cg7c00D25s00Cg7c00D1stc0Cg7c00D25s00Cg7c00D25s00Cg7c00D1stc0Cg7c00D25s00Cg7c00D" ++
      "1stc0Cgkao0D1stc0Cg7c00D25s00Cg7c00D1stc0Cg7c00D25s00Cg7c00D25s00Cg7c00D1stc0Cg7c00D25s00" ++
      "Cg7c00D1stc0Cgkao0D1stc0Cg7c00D25s00Cg7c00D1stc0Cg7c00D25s00Cg7c00D1stc0Cgkao0D1stc0Cg7c0" ++
      "0D25s00Cg7c00D1stc0Cgkao0D1stc0Cg7c00D25s00", none⟩,
  ⟨"Africa/Johannesburg", [6720, 5400, 7200, 10800], "B1c2g5hcC5rpt0oDkn7o60C9cyk0D9d440C9cyk0",
    none⟩,
  ⟨"Africa/Juba", [7588, 7200, 10800],
    "B1wd7jh8CkixuysB8l6k0Ca4w40B8n180Ca6qs0B8n180Ca31g0B8ovw0Ca16s0B8qqk0C9zc40B8sl80C9xhg0B8wa" ++
      "k0C9ts40B8y580Ca4w40B8n180Ca31g0B8ovw0Ca16s0B8sl80C9xhg0B8ufw0C9vms0B8wak0C9ts40B8y580Ca4" ++
      "w40B8ovw0Ca16s0B8qqk0C7frw40Bazg180", none⟩,
  ⟨"Africa/Khartoum", [7808, 7200, 10800],
    "B1wd7jb4Ckixv4wB8l6k0Ca4w40B8n180Ca6qs0B8n180Ca31g0B8ovw0Ca16s0B8qqk0C9zc40B8sl80C9xhg0B8wa" ++
      "k0C9ts40B8y580Ca4w40B8n180Ca31g0B8ovw0Ca16s0B8sl80C9xhg0B8ufw0C9vms0B8wak0C9ts40B8y580Ca4" ++
      "w40B8ovw0Ca16s0B8qqk0C7frw40B9ac180", none⟩,
  ⟨"Africa/Lagos", [815, 0, 1800, 3600], "B1j21opdA1kdnanC2ve7ddD2yfgkn", none⟩,
  ⟨"Africa/Maputo", [7818, 7200], "B1kvvwmu", none⟩,
  ⟨"Africa/Monrovia", [-2588, -2670, 0], "B1q6scnwCrl202a", none⟩,
  ⟨"Africa/Nairobi", [8836, 9000, 10800, 9900], "B1kja6ikCaiwqjgBsg1a0D3nbte0C2wu1z0", none⟩,
  ⟨"Africa/Ndjamena", [3612, 3600, 7200], "B1mg7rvoCzdk5ccB7iak0", none⟩,
  ⟨"Africa/Sao_Tome", [1616, -2205, 0, 3600], "B17u6s34Cem12kwD1jbm840Cirxc0", none⟩,
  ⟨"Africa/Tripoli", [3164, 3600, 7200],
    "B1qmiw84Cgl6ajwB422c0Cxado0B4bbo0Cwrpg0B4s580C1kdpg0Bc05bw0C4mqs0B9et80C9d440B9et80C9eys0B9" ++
      "et80C9mdg0B95jw0C9io40B9cyk0C99es0B9et80C9eys0B9et80C9d440B9et80Cb2840B3cf3w0C9kis0B855s4" ++
      "0C75eo0", none⟩,
  ⟨"Africa/Tunis", [2444, 561, 3600, 7200],
    "B16glks4Cfke44bDenxevlCb5uo0D53c00Cu8w00D7x9g0Cc8w80D7k800Cz3w0Dew40C8bx80D9d440C9nx00D925o" ++
      "0C8l100Dgi3440C7k800Db9k00C7vc00D51mw00C5ytc0D9d1c0C9d1c0Db9k00C7thc0D7m0tc0C7tk40D93us0C" ++
      "b5uo0D7k800Cb5uo0D7x6o0Casw00", none⟩,
  ⟨"Africa/Windhoek", [4104, 5400, 7200, 10800, 3600],
    "B1c2g7i0C5rpr00Dkn7o60C9cyk0Eqm87w0C8lho0East80C7x9g0Eb5rw0C7kas0Eb5rw0C7x9g0East80C7x9g0Ea" ++
      "st80C7x9g0East80C7x9g0East80C7x9g0Eb5rw0C7kas0Eb5rw0C7x9g0East80C7x9g0East80C7x9g0East80C" ++
      "7x9g0East80C7x9g0Eb5rw0C7x9g0East80C7x9g0East80C7x9g0East80C7x9g0East80C7x9g0Eb5rw0C7kas0" ++
      "Eb5rw0C7x9g0East80C7x9g0East80C7x9g0East80C7x9g0", none⟩]

end HttpJournal.ZoneTable
