import EchoProbe.Text.Ranges

/-!
# Characters replaced by several

A table for domain names, as ranges of code points in hexadecimal.
-/

namespace EchoProbe.Net

open EchoProbe.Text

/-- The characters that a domain name has several characters for. -/
def expandedTable : Expansions := Expansions.ofLines
  ["A8>20-308 AF>20-304 B4>20-301 B8>20-327 BC>31-2044-34 BD>31-2044-32 BE>33-2044-34",
    "130>69-307 132>69-6A 133>69-6A 13F>6C-B7 140>6C-B7 149>2BC-6E 1C4>64-17E 1C5>64-17E",
    "1C6>64-17E 1C7>6C-6A 1C8>6C-6A 1C9>6C-6A 1CA>6E-6A 1CB>6E-6A 1CC>6E-6A 1F1>64-7A",
    "1F2>64-7A 1F3>64-7A 2D8>20-306 2D9>20-307 2DA>20-30A 2DB>20-328 2DC>20-303 2DD>20-30B",
    "344>308-301 37A>20-3B9 384>20-301 385>20-308-301 587>565-582 675>627-674 676>648-674",
    "677>6C7-674 678>64A-674 958>915-93C 959>916-93C 95A>917-93C 95B>91C-93C 95C>921-93C",
    "95D>922-93C 95E>92B-93C 95F>92F-93C 9DC>9A1-9BC 9DD>9A2-9BC 9DF>9AF-9BC A33>A32-A3C",
    "A36>A38-A3C A59>A16-A3C A5A>A17-A3C A5B>A1C-A3C A5E>A2B-A3C B5C>B21-B3C B5D>B22-B3C",
    "E33>E4D-E32 EB3>ECD-EB2 EDC>EAB-E99 EDD>EAB-EA1 F43>F42-FB7 F4D>F4C-FB7 F52>F51-FB7",
    "F57>F56-FB7 F5C>F5B-FB7 F69>F40-FB5 F73>F71-F72 F75>F71-F74 F76>FB2-F80",
    "F77>FB2-F71-F80 F78>FB3-F80 F79>FB3-F71-F80 F81>F71-F80 F93>F92-FB7 F9D>F9C-FB7",
    "FA2>FA1-FB7 FA7>FA6-FB7 FAC>FAB-FB7 FB9>F90-FB5 1E9A>61-2BE 1F80>1F00-3B9",
    "1F81>1F01-3B9 1F82>1F02-3B9 1F83>1F03-3B9 1F84>1F04-3B9 1F85>1F05-3B9 1F86>1F06-3B9",
    "1F87>1F07-3B9 1F88>1F00-3B9 1F89>1F01-3B9 1F8A>1F02-3B9 1F8B>1F03-3B9 1F8C>1F04-3B9",
    "1F8D>1F05-3B9 1F8E>1F06-3B9 1F8F>1F07-3B9 1F90>1F20-3B9 1F91>1F21-3B9 1F92>1F22-3B9",
    "1F93>1F23-3B9 1F94>1F24-3B9 1F95>1F25-3B9 1F96>1F26-3B9 1F97>1F27-3B9 1F98>1F20-3B9",
    "1F99>1F21-3B9 1F9A>1F22-3B9 1F9B>1F23-3B9 1F9C>1F24-3B9 1F9D>1F25-3B9 1F9E>1F26-3B9",
    "1F9F>1F27-3B9 1FA0>1F60-3B9 1FA1>1F61-3B9 1FA2>1F62-3B9 1FA3>1F63-3B9 1FA4>1F64-3B9",
    "1FA5>1F65-3B9 1FA6>1F66-3B9 1FA7>1F67-3B9 1FA8>1F60-3B9 1FA9>1F61-3B9 1FAA>1F62-3B9",
    "1FAB>1F63-3B9 1FAC>1F64-3B9 1FAD>1F65-3B9 1FAE>1F66-3B9 1FAF>1F67-3B9 1FB2>1F70-3B9",
    "1FB3>3B1-3B9 1FB4>3AC-3B9 1FB7>1FB6-3B9 1FBC>3B1-3B9 1FBD>20-313 1FBF>20-313",
    "1FC0>20-342 1FC1>20-308-342 1FC2>1F74-3B9 1FC3>3B7-3B9 1FC4>3AE-3B9 1FC7>1FC6-3B9",
    "1FCC>3B7-3B9 1FCD>20-313-300 1FCE>20-313-301 1FCF>20-313-342 1FDD>20-314-300",
    "1FDE>20-314-301 1FDF>20-314-342 1FED>20-308-300 1FEE>20-308-301 1FF2>1F7C-3B9",
    "1FF3>3C9-3B9 1FF4>3CE-3B9 1FF7>1FF6-3B9 1FFC>3C9-3B9 1FFD>20-301 1FFE>20-314",
    "2017>20-333 2033>2032-2032 2034>2032-2032-2032 2036>2035-2035 2037>2035-2035-2035",
    "203C>21-21 203E>20-305 2047>3F-3F 2048>3F-21 2049>21-3F 2057>2032-2032-2032-2032",
    "20A8>72-73 2100>61-2F-63 2101>61-2F-73 2103>B0-63 2105>63-2F-6F 2106>63-2F-75",
    "2109>B0-66 2116>6E-6F 2120>73-6D 2121>74-65-6C 2122>74-6D 213B>66-61-78",
    "2150>31-2044-37 2151>31-2044-39 2152>31-2044-31-30 2153>31-2044-33 2154>32-2044-33",
    "2155>31-2044-35 2156>32-2044-35 2157>33-2044-35 2158>34-2044-35 2159>31-2044-36",
    "215A>35-2044-36 215B>31-2044-38 215C>33-2044-38 215D>35-2044-38 215E>37-2044-38",
    "215F>31-2044 2161>69-69 2162>69-69-69 2163>69-76 2165>76-69 2166>76-69-69",
    "2167>76-69-69-69 2168>69-78 216A>78-69 216B>78-69-69 2171>69-69 2172>69-69-69",
    "2173>69-76 2175>76-69 2176>76-69-69 2177>76-69-69-69 2178>69-78 217A>78-69",
    "217B>78-69-69 2189>30-2044-33 222C>222B-222B 222D>222B-222B-222B 222F>222E-222E",
    "2230>222E-222E-222E 2469>31-30 246A>31-31 246B>31-32 246C>31-33 246D>31-34 246E>31-35",
    "246F>31-36 2470>31-37 2471>31-38 2472>31-39 2473>32-30 2474>28-31-29 2475>28-32-29",
    "2476>28-33-29 2477>28-34-29 2478>28-35-29 2479>28-36-29 247A>28-37-29 247B>28-38-29",
    "247C>28-39-29 247D>28-31-30-29 247E>28-31-31-29 247F>28-31-32-29 2480>28-31-33-29",
    "2481>28-31-34-29 2482>28-31-35-29 2483>28-31-36-29 2484>28-31-37-29 2485>28-31-38-29",
    "2486>28-31-39-29 2487>28-32-30-29 249C>28-61-29 249D>28-62-29 249E>28-63-29",
    "249F>28-64-29 24A0>28-65-29 24A1>28-66-29 24A2>28-67-29 24A3>28-68-29 24A4>28-69-29",
    "24A5>28-6A-29 24A6>28-6B-29 24A7>28-6C-29 24A8>28-6D-29 24A9>28-6E-29 24AA>28-6F-29",
    "24AB>28-70-29 24AC>28-71-29 24AD>28-72-29 24AE>28-73-29 24AF>28-74-29 24B0>28-75-29",
    "24B1>28-76-29 24B2>28-77-29 24B3>28-78-29 24B4>28-79-29 24B5>28-7A-29",
    "2A0C>222B-222B-222B-222B 2A74>3A-3A-3D 2A75>3D-3D 2A76>3D-3D-3D 2ADC>2ADD-338",
    "309B>20-3099 309C>20-309A 309F>3088-308A 30FF>30B3-30C8 3200>28-1100-29",
    "3201>28-1102-29 3202>28-1103-29 3203>28-1105-29 3204>28-1106-29 3205>28-1107-29",
    "3206>28-1109-29 3207>28-110B-29 3208>28-110C-29 3209>28-110E-29 320A>28-110F-29",
    "320B>28-1110-29 320C>28-1111-29 320D>28-1112-29 320E>28-AC00-29 320F>28-B098-29",
    "3210>28-B2E4-29 3211>28-B77C-29 3212>28-B9C8-29 3213>28-BC14-29 3214>28-C0AC-29",
    "3215>28-C544-29 3216>28-C790-29 3217>28-CC28-29 3218>28-CE74-29 3219>28-D0C0-29",
    "321A>28-D30C-29 321B>28-D558-29 321C>28-C8FC-29 321D>28-C624-C804-29",
    "321E>28-C624-D6C4-29 3220>28-4E00-29 3221>28-4E8C-29 3222>28-4E09-29 3223>28-56DB-29",
    "3224>28-4E94-29 3225>28-516D-29 3226>28-4E03-29 3227>28-516B-29 3228>28-4E5D-29",
    "3229>28-5341-29 322A>28-6708-29 322B>28-706B-29 322C>28-6C34-29 322D>28-6728-29",
    "322E>28-91D1-29 322F>28-571F-29 3230>28-65E5-29 3231>28-682A-29 3232>28-6709-29",
    "3233>28-793E-29 3234>28-540D-29 3235>28-7279-29 3236>28-8CA1-29 3237>28-795D-29",
    "3238>28-52B4-29 3239>28-4EE3-29 323A>28-547C-29 323B>28-5B66-29 323C>28-76E3-29",
    "323D>28-4F01-29 323E>28-8CC7-29 323F>28-5354-29 3240>28-796D-29 3241>28-4F11-29",
    "3242>28-81EA-29 3243>28-81F3-29 3250>70-74-65 3251>32-31 3252>32-32 3253>32-33",
    "3254>32-34 3255>32-35 3256>32-36 3257>32-37 3258>32-38 3259>32-39 325A>33-30",
    "325B>33-31 325C>33-32 325D>33-33 325E>33-34 325F>33-35 327C>CC38-ACE0 327D>C8FC-C758",
    "32B1>33-36 32B2>33-37 32B3>33-38 32B4>33-39 32B5>34-30 32B6>34-31 32B7>34-32",
    "32B8>34-33 32B9>34-34 32BA>34-35 32BB>34-36 32BC>34-37 32BD>34-38 32BE>34-39",
    "32BF>35-30 32C0>31-6708 32C1>32-6708 32C2>33-6708 32C3>34-6708 32C4>35-6708",
    "32C5>36-6708 32C6>37-6708 32C7>38-6708 32C8>39-6708 32C9>31-30-6708 32CA>31-31-6708",
    "32CB>31-32-6708 32CC>68-67 32CD>65-72-67 32CE>65-76 32CF>6C-74-64 32FF>4EE4-548C",
    "3300>30A2-30D1-30FC-30C8 3301>30A2-30EB-30D5-30A1 3302>30A2-30F3-30DA-30A2",
    "3303>30A2-30FC-30EB 3304>30A4-30CB-30F3-30B0 3305>30A4-30F3-30C1 3306>30A6-30A9-30F3",
    "3307>30A8-30B9-30AF-30FC-30C9 3308>30A8-30FC-30AB-30FC 3309>30AA-30F3-30B9",
    "330A>30AA-30FC-30E0 330B>30AB-30A4-30EA 330C>30AB-30E9-30C3-30C8",
    "330D>30AB-30ED-30EA-30FC 330E>30AC-30ED-30F3 330F>30AC-30F3-30DE 3310>30AE-30AC",
    "3311>30AE-30CB-30FC 3312>30AD-30E5-30EA-30FC 3313>30AE-30EB-30C0-30FC 3314>30AD-30ED",
    "3315>30AD-30ED-30B0-30E9-30E0 3316>30AD-30ED-30E1-30FC-30C8-30EB",
    "3317>30AD-30ED-30EF-30C3-30C8 3318>30B0-30E9-30E0 3319>30B0-30E9-30E0-30C8-30F3",
    "331A>30AF-30EB-30BC-30A4-30ED 331B>30AF-30ED-30FC-30CD 331C>30B1-30FC-30B9",
    "331D>30B3-30EB-30CA 331E>30B3-30FC-30DD 331F>30B5-30A4-30AF-30EB",
    "3320>30B5-30F3-30C1-30FC-30E0 3321>30B7-30EA-30F3-30B0 3322>30BB-30F3-30C1",
    "3323>30BB-30F3-30C8 3324>30C0-30FC-30B9 3325>30C7-30B7 3326>30C9-30EB 3327>30C8-30F3",
    "3328>30CA-30CE 3329>30CE-30C3-30C8 332A>30CF-30A4-30C4 332B>30D1-30FC-30BB-30F3-30C8",
    "332C>30D1-30FC-30C4 332D>30D0-30FC-30EC-30EB 332E>30D4-30A2-30B9-30C8-30EB",
    "332F>30D4-30AF-30EB 3330>30D4-30B3 3331>30D3-30EB 3332>30D5-30A1-30E9-30C3-30C9",
    "3333>30D5-30A3-30FC-30C8 3334>30D6-30C3-30B7-30A7-30EB 3335>30D5-30E9-30F3",
    "3336>30D8-30AF-30BF-30FC-30EB 3337>30DA-30BD 3338>30DA-30CB-30D2 3339>30D8-30EB-30C4",
    "333A>30DA-30F3-30B9 333B>30DA-30FC-30B8 333C>30D9-30FC-30BF 333D>30DD-30A4-30F3-30C8",
    "333E>30DC-30EB-30C8 333F>30DB-30F3 3340>30DD-30F3-30C9 3341>30DB-30FC-30EB",
    "3342>30DB-30FC-30F3 3343>30DE-30A4-30AF-30ED 3344>30DE-30A4-30EB 3345>30DE-30C3-30CF",
    "3346>30DE-30EB-30AF 3347>30DE-30F3-30B7-30E7-30F3 3348>30DF-30AF-30ED-30F3",
    "3349>30DF-30EA 334A>30DF-30EA-30D0-30FC-30EB 334B>30E1-30AC 334C>30E1-30AC-30C8-30F3",
    "334D>30E1-30FC-30C8-30EB 334E>30E4-30FC-30C9 334F>30E4-30FC-30EB 3350>30E6-30A2-30F3",
    "3351>30EA-30C3-30C8-30EB 3352>30EA-30E9 3353>30EB-30D4-30FC 3354>30EB-30FC-30D6-30EB",
    "3355>30EC-30E0 3356>30EC-30F3-30C8-30B2-30F3 3357>30EF-30C3-30C8 3358>30-70B9",
    "3359>31-70B9 335A>32-70B9 335B>33-70B9 335C>34-70B9 335D>35-70B9 335E>36-70B9",
    "335F>37-70B9 3360>38-70B9 3361>39-70B9 3362>31-30-70B9 3363>31-31-70B9 3364>31-32-70B9",
    "3365>31-33-70B9 3366>31-34-70B9 3367>31-35-70B9 3368>31-36-70B9 3369>31-37-70B9",
    "336A>31-38-70B9 336B>31-39-70B9 336C>32-30-70B9 336D>32-31-70B9 336E>32-32-70B9",
    "336F>32-33-70B9 3370>32-34-70B9 3371>68-70-61 3372>64-61 3373>61-75 3374>62-61-72",
    "3375>6F-76 3376>70-63 3377>64-6D 3378>64-6D-32 3379>64-6D-33 337A>69-75 337B>5E73-6210",
    "337C>662D-548C 337D>5927-6B63 337E>660E-6CBB 337F>682A-5F0F-4F1A-793E 3380>70-61",
    "3381>6E-61 3382>3BC-61 3383>6D-61 3384>6B-61 3385>6B-62 3386>6D-62 3387>67-62",
    "3388>63-61-6C 3389>6B-63-61-6C 338A>70-66 338B>6E-66 338C>3BC-66 338D>3BC-67",
    "338E>6D-67 338F>6B-67 3390>68-7A 3391>6B-68-7A 3392>6D-68-7A 3393>67-68-7A",
    "3394>74-68-7A 3395>3BC-6C 3396>6D-6C 3397>64-6C 3398>6B-6C 3399>66-6D 339A>6E-6D",
    "339B>3BC-6D 339C>6D-6D 339D>63-6D 339E>6B-6D 339F>6D-6D-32 33A0>63-6D-32 33A1>6D-32",
    "33A2>6B-6D-32 33A3>6D-6D-33 33A4>63-6D-33 33A5>6D-33 33A6>6B-6D-33 33A7>6D-2215-73",
    "33A8>6D-2215-73-32 33A9>70-61 33AA>6B-70-61 33AB>6D-70-61 33AC>67-70-61 33AD>72-61-64",
    "33AE>72-61-64-2215-73 33AF>72-61-64-2215-73-32 33B0>70-73 33B1>6E-73 33B2>3BC-73",
    "33B3>6D-73 33B4>70-76 33B5>6E-76 33B6>3BC-76 33B7>6D-76 33B8>6B-76 33B9>6D-76",
    "33BA>70-77 33BB>6E-77 33BC>3BC-77 33BD>6D-77 33BE>6B-77 33BF>6D-77 33C0>6B-3C9",
    "33C1>6D-3C9 33C3>62-71 33C4>63-63 33C5>63-64 33C6>63-2215-6B-67 33C8>64-62 33C9>67-79",
    "33CA>68-61 33CB>68-70 33CC>69-6E 33CD>6B-6B 33CE>6B-6D 33CF>6B-74 33D0>6C-6D",
    "33D1>6C-6E 33D2>6C-6F-67 33D3>6C-78 33D4>6D-62 33D5>6D-69-6C 33D6>6D-6F-6C 33D7>70-68",
    "33D9>70-70-6D 33DA>70-72 33DB>73-72 33DC>73-76 33DD>77-62 33DE>76-2215-6D",
    "33DF>61-2215-6D 33E0>31-65E5 33E1>32-65E5 33E2>33-65E5 33E3>34-65E5 33E4>35-65E5",
    "33E5>36-65E5 33E6>37-65E5 33E7>38-65E5 33E8>39-65E5 33E9>31-30-65E5 33EA>31-31-65E5",
    "33EB>31-32-65E5 33EC>31-33-65E5 33ED>31-34-65E5 33EE>31-35-65E5 33EF>31-36-65E5",
    "33F0>31-37-65E5 33F1>31-38-65E5 33F2>31-39-65E5 33F3>32-30-65E5 33F4>32-31-65E5",
    "33F5>32-32-65E5 33F6>32-33-65E5 33F7>32-34-65E5 33F8>32-35-65E5 33F9>32-36-65E5",
    "33FA>32-37-65E5 33FB>32-38-65E5 33FC>32-39-65E5 33FD>33-30-65E5 33FE>33-31-65E5",
    "33FF>67-61-6C FB00>66-66 FB01>66-69 FB02>66-6C FB03>66-66-69 FB04>66-66-6C FB05>73-74",
    "FB06>73-74 FB13>574-576 FB14>574-565 FB15>574-56B FB16>57E-576 FB17>574-56D",
    "FB1D>5D9-5B4 FB1F>5F2-5B7 FB2A>5E9-5C1 FB2B>5E9-5C2 FB2C>5E9-5BC-5C1 FB2D>5E9-5BC-5C2",
    "FB2E>5D0-5B7 FB2F>5D0-5B8 FB30>5D0-5BC FB31>5D1-5BC FB32>5D2-5BC FB33>5D3-5BC",
    "FB34>5D4-5BC FB35>5D5-5BC FB36>5D6-5BC FB38>5D8-5BC FB39>5D9-5BC FB3A>5DA-5BC",
    "FB3B>5DB-5BC FB3C>5DC-5BC FB3E>5DE-5BC FB40>5E0-5BC FB41>5E1-5BC FB43>5E3-5BC",
    "FB44>5E4-5BC FB46>5E6-5BC FB47>5E7-5BC FB48>5E8-5BC FB49>5E9-5BC FB4A>5EA-5BC",
    "FB4B>5D5-5B9 FB4C>5D1-5BF FB4D>5DB-5BF FB4E>5E4-5BF FB4F>5D0-5DC FBDD>6C7-674",
    "FBEA>626-627 FBEB>626-627 FBEC>626-6D5 FBED>626-6D5 FBEE>626-648 FBEF>626-648",
    "FBF0>626-6C7 FBF1>626-6C7 FBF2>626-6C6 FBF3>626-6C6 FBF4>626-6C8 FBF5>626-6C8",
    "FBF6>626-6D0 FBF7>626-6D0 FBF8>626-6D0 FBF9>626-649 FBFA>626-649 FBFB>626-649",
    "FC00>626-62C FC01>626-62D FC02>626-645 FC03>626-649 FC04>626-64A FC05>628-62C",
    "FC06>628-62D FC07>628-62E FC08>628-645 FC09>628-649 FC0A>628-64A FC0B>62A-62C",
    "FC0C>62A-62D FC0D>62A-62E FC0E>62A-645 FC0F>62A-649 FC10>62A-64A FC11>62B-62C",
    "FC12>62B-645 FC13>62B-649 FC14>62B-64A FC15>62C-62D FC16>62C-645 FC17>62D-62C",
    "FC18>62D-645 FC19>62E-62C FC1A>62E-62D FC1B>62E-645 FC1C>633-62C FC1D>633-62D",
    "FC1E>633-62E FC1F>633-645 FC20>635-62D FC21>635-645 FC22>636-62C FC23>636-62D",
    "FC24>636-62E FC25>636-645 FC26>637-62D FC27>637-645 FC28>638-645 FC29>639-62C",
    "FC2A>639-645 FC2B>63A-62C FC2C>63A-645 FC2D>641-62C FC2E>641-62D FC2F>641-62E",
    "FC30>641-645 FC31>641-649 FC32>641-64A FC33>642-62D FC34>642-645 FC35>642-649",
    "FC36>642-64A FC37>643-627 FC38>643-62C FC39>643-62D FC3A>643-62E FC3B>643-644",
    "FC3C>643-645 FC3D>643-649 FC3E>643-64A FC3F>644-62C FC40>644-62D FC41>644-62E",
    "FC42>644-645 FC43>644-649 FC44>644-64A FC45>645-62C FC46>645-62D FC47>645-62E",
    "FC48>645-645 FC49>645-649 FC4A>645-64A FC4B>646-62C FC4C>646-62D FC4D>646-62E",
    "FC4E>646-645 FC4F>646-649 FC50>646-64A FC51>647-62C FC52>647-645 FC53>647-649",
    "FC54>647-64A FC55>64A-62C FC56>64A-62D FC57>64A-62E FC58>64A-645 FC59>64A-649",
    "FC5A>64A-64A FC5B>630-670 FC5C>631-670 FC5D>649-670 FC5E>20-64C-651 FC5F>20-64D-651",
    "FC60>20-64E-651 FC61>20-64F-651 FC62>20-650-651 FC63>20-651-670 FC64>626-631",
    "FC65>626-632 FC66>626-645 FC67>626-646 FC68>626-649 FC69>626-64A FC6A>628-631",
    "FC6B>628-632 FC6C>628-645 FC6D>628-646 FC6E>628-649 FC6F>628-64A FC70>62A-631",
    "FC71>62A-632 FC72>62A-645 FC73>62A-646 FC74>62A-649 FC75>62A-64A FC76>62B-631",
    "FC77>62B-632 FC78>62B-645 FC79>62B-646 FC7A>62B-649 FC7B>62B-64A FC7C>641-649",
    "FC7D>641-64A FC7E>642-649 FC7F>642-64A FC80>643-627 FC81>643-644 FC82>643-645",
    "FC83>643-649 FC84>643-64A FC85>644-645 FC86>644-649 FC87>644-64A FC88>645-627",
    "FC89>645-645 FC8A>646-631 FC8B>646-632 FC8C>646-645 FC8D>646-646 FC8E>646-649",
    "FC8F>646-64A FC90>649-670 FC91>64A-631 FC92>64A-632 FC93>64A-645 FC94>64A-646",
    "FC95>64A-649 FC96>64A-64A FC97>626-62C FC98>626-62D FC99>626-62E FC9A>626-645",
    "FC9B>626-647 FC9C>628-62C FC9D>628-62D FC9E>628-62E FC9F>628-645 FCA0>628-647",
    "FCA1>62A-62C FCA2>62A-62D FCA3>62A-62E FCA4>62A-645 FCA5>62A-647 FCA6>62B-645",
    "FCA7>62C-62D FCA8>62C-645 FCA9>62D-62C FCAA>62D-645 FCAB>62E-62C FCAC>62E-645",
    "FCAD>633-62C FCAE>633-62D FCAF>633-62E FCB0>633-645 FCB1>635-62D FCB2>635-62E",
    "FCB3>635-645 FCB4>636-62C FCB5>636-62D FCB6>636-62E FCB7>636-645 FCB8>637-62D",
    "FCB9>638-645 FCBA>639-62C FCBB>639-645 FCBC>63A-62C FCBD>63A-645 FCBE>641-62C",
    "FCBF>641-62D FCC0>641-62E FCC1>641-645 FCC2>642-62D FCC3>642-645 FCC4>643-62C",
    "FCC5>643-62D FCC6>643-62E FCC7>643-644 FCC8>643-645 FCC9>644-62C FCCA>644-62D",
    "FCCB>644-62E FCCC>644-645 FCCD>644-647 FCCE>645-62C FCCF>645-62D FCD0>645-62E",
    "FCD1>645-645 FCD2>646-62C FCD3>646-62D FCD4>646-62E FCD5>646-645 FCD6>646-647",
    "FCD7>647-62C FCD8>647-645 FCD9>647-670 FCDA>64A-62C FCDB>64A-62D FCDC>64A-62E",
    "FCDD>64A-645 FCDE>64A-647 FCDF>626-645 FCE0>626-647 FCE1>628-645 FCE2>628-647",
    "FCE3>62A-645 FCE4>62A-647 FCE5>62B-645 FCE6>62B-647 FCE7>633-645 FCE8>633-647",
    "FCE9>634-645 FCEA>634-647 FCEB>643-644 FCEC>643-645 FCED>644-645 FCEE>646-645",
    "FCEF>646-647 FCF0>64A-645 FCF1>64A-647 FCF2>640-64E-651 FCF3>640-64F-651",
    "FCF4>640-650-651 FCF5>637-649 FCF6>637-64A FCF7>639-649 FCF8>639-64A FCF9>63A-649",
    "FCFA>63A-64A FCFB>633-649 FCFC>633-64A FCFD>634-649 FCFE>634-64A FCFF>62D-649",
    "FD00>62D-64A FD01>62C-649 FD02>62C-64A FD03>62E-649 FD04>62E-64A FD05>635-649",
    "FD06>635-64A FD07>636-649 FD08>636-64A FD09>634-62C FD0A>634-62D FD0B>634-62E",
    "FD0C>634-645 FD0D>634-631 FD0E>633-631 FD0F>635-631 FD10>636-631 FD11>637-649",
    "FD12>637-64A FD13>639-649 FD14>639-64A FD15>63A-649 FD16>63A-64A FD17>633-649",
    "FD18>633-64A FD19>634-649 FD1A>634-64A FD1B>62D-649 FD1C>62D-64A FD1D>62C-649",
    "FD1E>62C-64A FD1F>62E-649 FD20>62E-64A FD21>635-649 FD22>635-64A FD23>636-649",
    "FD24>636-64A FD25>634-62C FD26>634-62D FD27>634-62E FD28>634-645 FD29>634-631",
    "FD2A>633-631 FD2B>635-631 FD2C>636-631 FD2D>634-62C FD2E>634-62D FD2F>634-62E",
    "FD30>634-645 FD31>633-647 FD32>634-647 FD33>637-645 FD34>633-62C FD35>633-62D",
    "FD36>633-62E FD37>634-62C FD38>634-62D FD39>634-62E FD3A>637-645 FD3B>638-645",
    "FD3C>627-64B FD3D>627-64B FD50>62A-62C-645 FD51>62A-62D-62C FD52>62A-62D-62C",
    "FD53>62A-62D-645 FD54>62A-62E-645 FD55>62A-645-62C FD56>62A-645-62D FD57>62A-645-62E",
    "FD58>62C-645-62D FD59>62C-645-62D FD5A>62D-645-64A FD5B>62D-645-649 FD5C>633-62D-62C",
    "FD5D>633-62C-62D FD5E>633-62C-649 FD5F>633-645-62D FD60>633-645-62D FD61>633-645-62C",
    "FD62>633-645-645 FD63>633-645-645 FD64>635-62D-62D FD65>635-62D-62D FD66>635-645-645",
    "FD67>634-62D-645 FD68>634-62D-645 FD69>634-62C-64A FD6A>634-645-62E FD6B>634-645-62E",
    "FD6C>634-645-645 FD6D>634-645-645 FD6E>636-62D-649 FD6F>636-62E-645 FD70>636-62E-645",
    "FD71>637-645-62D FD72>637-645-62D FD73>637-645-645 FD74>637-645-64A FD75>639-62C-645",
    "FD76>639-645-645 FD77>639-645-645 FD78>639-645-649 FD79>63A-645-645 FD7A>63A-645-64A",
    "FD7B>63A-645-649 FD7C>641-62E-645 FD7D>641-62E-645 FD7E>642-645-62D FD7F>642-645-645",
    "FD80>644-62D-645 FD81>644-62D-64A FD82>644-62D-649 FD83>644-62C-62C FD84>644-62C-62C",
    "FD85>644-62E-645 FD86>644-62E-645 FD87>644-645-62D FD88>644-645-62D FD89>645-62D-62C",
    "FD8A>645-62D-645 FD8B>645-62D-64A FD8C>645-62C-62D FD8D>645-62C-645 FD8E>645-62E-62C",
    "FD8F>645-62E-645 FD92>645-62C-62E FD93>647-645-62C FD94>647-645-645 FD95>646-62D-645",
    "FD96>646-62D-649 FD97>646-62C-645 FD98>646-62C-645 FD99>646-62C-649 FD9A>646-645-64A",
    "FD9B>646-645-649 FD9C>64A-645-645 FD9D>64A-645-645 FD9E>628-62E-64A FD9F>62A-62C-64A",
    "FDA0>62A-62C-649 FDA1>62A-62E-64A FDA2>62A-62E-649 FDA3>62A-645-64A FDA4>62A-645-649",
    "FDA5>62C-645-64A FDA6>62C-62D-649 FDA7>62C-645-649 FDA8>633-62E-649 FDA9>635-62D-64A",
    "FDAA>634-62D-64A FDAB>636-62D-64A FDAC>644-62C-64A FDAD>644-645-64A FDAE>64A-62D-64A",
    "FDAF>64A-62C-64A FDB0>64A-645-64A FDB1>645-645-64A FDB2>642-645-64A FDB3>646-62D-64A",
    "FDB4>642-645-62D FDB5>644-62D-645 FDB6>639-645-64A FDB7>643-645-64A FDB8>646-62C-62D",
    "FDB9>645-62E-64A FDBA>644-62C-645 FDBB>643-645-645 FDBC>644-62C-645 FDBD>646-62C-62D",
    "FDBE>62C-62D-64A FDBF>62D-62C-64A FDC0>645-62C-64A FDC1>641-645-64A FDC2>628-62D-64A",
    "FDC3>643-645-645 FDC4>639-62C-645 FDC5>635-645-645 FDC6>633-62E-64A FDC7>646-62C-64A",
    "FDF0>635-644-6D2 FDF1>642-644-6D2 FDF2>627-644-644-647 FDF3>627-643-628-631",
    "FDF4>645-62D-645-62F FDF5>635-644-639-645 FDF6>631-633-648-644 FDF7>639-644-64A-647",
    "FDF8>648-633-644-645 FDF9>635-644-649",
    "FDFA>635-644-649-20-627-644-644-647-20-639-644-64A-647-20-648-633-644-645",
    "FDFB>62C-644-20-62C-644-627-644-647 FDFC>631-6CC-627-644 FE49>20-305 FE4A>20-305",
    "FE4B>20-305 FE4C>20-305 FE70>20-64B FE71>640-64B FE72>20-64C FE74>20-64D FE76>20-64E",
    "FE77>640-64E FE78>20-64F FE79>640-64F FE7A>20-650 FE7B>640-650 FE7C>20-651",
    "FE7D>640-651 FE7E>20-652 FE7F>640-652 FEF5>644-622 FEF6>644-622 FEF7>644-623",
    "FEF8>644-623 FEF9>644-625 FEFA>644-625 FEFB>644-627 FEFC>644-627 FFE3>20-304",
    "1D15E>1D157-1D165 1D15F>1D158-1D165 1D160>1D158-1D165-1D16E 1D161>1D158-1D165-1D16F",
    "1D162>1D158-1D165-1D170 1D163>1D158-1D165-1D171 1D164>1D158-1D165-1D172",
    "1D1BB>1D1B9-1D165 1D1BC>1D1BA-1D165 1D1BD>1D1B9-1D165-1D16E 1D1BE>1D1BA-1D165-1D16E",
    "1D1BF>1D1B9-1D165-1D16F 1D1C0>1D1BA-1D165-1D16F 1F101>30-2C 1F102>31-2C 1F103>32-2C",
    "1F104>33-2C 1F105>34-2C 1F106>35-2C 1F107>36-2C 1F108>37-2C 1F109>38-2C 1F10A>39-2C",
    "1F110>28-61-29 1F111>28-62-29 1F112>28-63-29 1F113>28-64-29 1F114>28-65-29",
    "1F115>28-66-29 1F116>28-67-29 1F117>28-68-29 1F118>28-69-29 1F119>28-6A-29",
    "1F11A>28-6B-29 1F11B>28-6C-29 1F11C>28-6D-29 1F11D>28-6E-29 1F11E>28-6F-29",
    "1F11F>28-70-29 1F120>28-71-29 1F121>28-72-29 1F122>28-73-29 1F123>28-74-29",
    "1F124>28-75-29 1F125>28-76-29 1F126>28-77-29 1F127>28-78-29 1F128>28-79-29",
    "1F129>28-7A-29 1F12A>3014-73-3015 1F12D>63-64 1F12E>77-7A 1F14A>68-76 1F14B>6D-76",
    "1F14C>73-64 1F14D>73-73 1F14E>70-70-76 1F14F>77-63 1F16A>6D-63 1F16B>6D-64 1F16C>6D-72",
    "1F190>64-6A 1F200>307B-304B 1F201>30B3-30B3 1F240>3014-672C-3015 1F241>3014-4E09-3015",
    "1F242>3014-4E8C-3015 1F243>3014-5B89-3015 1F244>3014-70B9-3015 1F245>3014-6253-3015",
    "1F246>3014-76D7-3015 1F247>3014-52DD-3015 1F248>3014-6557-3015"]

end EchoProbe.Net
